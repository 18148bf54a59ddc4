import PushToTalk.Proofs.Url.Form
import PushToTalk.Proofs.Url.Host
import PushToTalk.Proofs.Url.Path
import PushToTalk.Url.Address

/-
  The parts of an address, found again in its text.

  An address is built from a base, which comes from the settings, from the segments of a request,
  and from a query with its values; then it is a text, and nobody knows any more where it came from.
  To say that everything is in its place, the text is taken apart once more, by a reader that is
  written down here for this purpose and knows nothing of how addresses are made.

  A text is taken apart at its marks, from the outside in: the scheme, what says where, the path,
  the query, the fragment (`Parts.read?`).  For the text of an address every part has to come out as
  it was put in.  That takes one thing of each part: that the mark which ends it does not stand in
  it.

  1. **Taking apart** — the reader, in which nothing is decoded.

  2. **Base addresses** — what says where.  User and host are what reading a base address made of
     them, so they have neither the marks that end them nor an at sign out of place
     (`Base.spelled_of_parse`).  The last at sign is the one that counts, and a colon counts outside
     of brackets only (`Spelled.splitUser`, `Spelled.splitPort`).

  3. **Addresses** — a path has no marks but slashes, and a query no number sign; the fragment is
     the last part and may have any character.

  What a path or a query says is decoded elsewhere; here they are texts.

  Main statement: `Parts.read?_text`.
-/

namespace PushToTalk.Url

/-! ## Taking apart -/

/-- An address taken apart at its marks; every part is as it is spelled. A part that is missing
is not the same as an empty one. -/
structure Parts where
  scheme : List Char
  user : Option (List Char)
  host : List Char
  port : Option (List Char)
  path : List Char
  query : Option (List Char)
  fragment : Option (List Char)
  deriving DecidableEq, Repr

namespace Parts

/-- Whether a character belongs to the path still. -/
def staysInPath (c : Char) : Bool := c != '?' && c != '#'

/-- The query at the front of what comes after the path. -/
def queryOf : List Char → Option (List Char)
  | '?' :: cs => some (cs.takeWhile (· != '#'))
  | _ => none

/-- Takes apart what comes after the two slashes. -/
def ofRest (scheme cs : List Char) : Parts :=
  let (user, place) := Base.splitUser (cs.takeWhile fun c => !Base.endsAuthority c)
  let (host, port) := Base.splitPort false place
  let after := cs.dropWhile fun c => !Base.endsAuthority c
  let behind := after.dropWhile staysInPath
  { scheme, user, host, port
    path := after.takeWhile staysInPath
    query := queryOf behind
    fragment := (behind.dropWhile (· != '#')).tail? }

/-- The parts of an address, if the text has a scheme and two slashes. -/
def read? (text : String) : Option Parts :=
  match text.toList.dropWhile (· != ':') with
  | ':' :: '/' :: '/' :: cs => some (ofRest (text.toList.takeWhile (· != ':')) cs)
  | _ => none

end Parts

/-! ## Base addresses -/

namespace Base

variable {user place cs : List Char}

/-- Without an at sign there is no user. -/
theorem splitUser_of_not_mem (h : '@' ∉ place) : splitUser place = (none, place) := by
  have hreverse : '@' ∉ place.reverse := by rwa [List.mem_reverse]
  have hback := (Text.divide_append (Text.goesOn_of_not_mem hreverse) [] (by simp)).1
  rw [List.append_nil] at hback
  unfold splitUser
  simp only [hback, List.length_reverse]
  rw [if_pos (by simp)]

/-- The last at sign is the one that counts. -/
theorem splitUser_append (h : '@' ∉ place) :
    splitUser (user ++ '@' :: place) = (some user, place) := by
  have hreverse : '@' ∉ place.reverse := by rwa [List.mem_reverse]
  have hback := (Text.divide_append (Text.goesOn_of_not_mem hreverse) ('@' :: user.reverse)
    (by simp)).1
  have hwhole : (user ++ '@' :: place).reverse = place.reverse ++ '@' :: user.reverse := by simp
  -- the at sign is found from behind, so the lengths tell that there is one
  have hlonger : ¬ place.length = user.length + (place.length + 1) := by omega
  have hfront : (place.reverse ++ '@' :: user.reverse).drop (place.length + 1) = user.reverse := by
    rw [List.drop_append, List.length_reverse, Nat.add_sub_cancel_left,
      List.drop_eq_nil_of_le (by simp)]
    rfl
  unfold splitUser
  simp only [hwhole, hback, hfront, List.length_reverse, List.length_append, List.length_cons,
    List.reverse_reverse]
  rw [if_neg (by simpa using hlonger)]

/-- A plain text has no colon, so no port begins in it. -/
theorem splitPort_plain (h : IsPlain cs) (rest : List Char) :
    splitPort false (cs ++ rest) = (cs ++ (splitPort false rest).1, (splitPort false rest).2) := by
  induction cs with
  | nil => rfl
  | cons c more ih =>
    have hc := h c List.mem_cons_self
    have hcolon : (c == ':') = false := by
      rw [beq_eq_false_iff_ne]
      rintro rfl
      exact hc (by decide)
    have hopen : (c == '[') = false := by
      rw [beq_eq_false_iff_ne]
      rintro rfl
      exact hc (by decide)
    have hmore := ih fun d hd => h d (List.mem_cons_of_mem _ hd)
    rw [List.cons_append, splitPort]
    simp [hcolon, hopen, hmore]

/-- Between brackets colons do not count, up to the bracket that closes. -/
theorem splitPort_inside (h : ∀ c ∈ cs, c = ':' ∨ c ∉ marks) (rest : List Char) :
    splitPort true (cs ++ ']' :: rest) =
      (cs ++ ']' :: (splitPort false rest).1, (splitPort false rest).2) := by
  induction cs with
  | nil =>
    rw [List.nil_append, splitPort]
    rfl
  | cons c more ih =>
    have hclose : (c != ']') = true := by
      rw [bne_iff_ne]
      rintro rfl
      rcases h ']' List.mem_cons_self with hc | hc
      · exact absurd hc (by decide)
      · exact hc (by decide)
    have hmore := ih fun d hd => h d (List.mem_cons_of_mem _ hd)
    rw [List.cons_append, splitPort]
    simp [hclose, hmore]

/-- A host has no colon outside square brackets. -/
theorem splitPort_spelled (h : Host.Spelled cs) (rest : List Char) :
    splitPort false (cs ++ rest) = (cs ++ (splitPort false rest).1, (splitPort false rest).2) := by
  cases h with
  | plain h => exact splitPort_plain h rest
  | bracketed h =>
    rw [List.cons_append, List.append_assoc, List.singleton_append, splitPort]
    simp [splitPort_inside h]

/-- How a user stands in an address: not at all, or with an at sign behind it. -/
def IsUser (cs : List Char) : Prop :=
  cs = [] ∨ ∃ spelled, cs = spelled ++ ['@'] ∧ ∀ c ∈ spelled, endsAuthority c = false

/-- A base address as reading makes it: no part has the mark that ends it. -/
structure Spelled (b : Base) : Prop where
  user : IsUser b.user
  host : Host.Spelled b.host.text
  query : ∀ q, b.query = some q → '#' ∉ q

/-- What ends the part that says where is escaped in a user. -/
theorem endsAuthority_of_mem_writeUser {c : Char} (h : c ∈ writeUser cs) :
    endsAuthority c = false := by
  have hmarks : ∀ m ∈ "/\\?#".toList, m ∉ writeUser cs := by
    intro m hm
    -- each of the four marks is among the characters that are escaped in a user
    have hescaped : "/\\?#".toList.any (shows fun b => b < 32 || b == 127 ||
        " \"#/:;<=>?@[\\]^\x60\x7b|\x7d".toList.contains (asciiChar b)) = false := by
      decide +kernel
    exact not_mem_encode (Bool.eq_false_iff.2 (List.any_eq_false.1 hescaped m hm)) _
  rw [Bool.eq_false_iff]
  intro hends
  have hc : c ∈ "/\\?#".toList := by simpa [endsAuthority, or_assoc] using hends
  exact hmarks c hc h

/-- The at sign is written only behind a user that is not empty. -/
theorem isUser_with_sign (h : ∀ c ∈ cs, endsAuthority c = false) :
    IsUser (if cs.isEmpty then [] else cs ++ ['@']) := by
  split
  · exact Or.inl rfl
  · exact Or.inr ⟨cs, rfl, h⟩

/-- A user with a name and a password, each of them escaped, with a colon in between. The colon
is no mark that ends what says where. -/
theorem isUser_userText (user : Option (List Char)) : IsUser (userText user) := by
  cases user with
  | none => exact Or.inl rfl
  | some cs =>
    have hall : ∀ name password, ∀ c ∈ writeUser name ++
        (if password.isEmpty then [] else ':' :: writeUser password), endsAuthority c = false := by
      intro name password c hc
      rcases List.mem_append.1 hc with hc | hc
      · exact endsAuthority_of_mem_writeUser hc
      · split at hc
        · exact absurd hc List.not_mem_nil
        · rcases List.mem_cons.1 hc with rfl | hc
          · rfl
          · exact endsAuthority_of_mem_writeUser hc
    exact isUser_with_sign (hall _ _)

/-- The parts of a base address, as they are read, have no mark in them that would end them: the
user and the query are escaped, and the host is checked. -/
theorem spelled_ofRest {b : Base} (h : ofRest cs = .ok b) : b.Spelled := by
  unfold ofRest at h
  simp only [bind, Except.bind] at h
  split at h
  · cases h
  · next host hhost =>
    split at h
    · cases h
    · cases h
      refine ⟨isUser_userText _, Host.spelled_of_parse hhost, ?_⟩
      intro q hq
      obtain ⟨cs, -, rfl⟩ := Option.map_eq_some_iff.1 hq
      exact not_mem_encode (by decide +kernel) _

/-- A base address that was read from host and port is spelled so. -/
theorem spelled_of_parse {host : String} {port : UInt16} {b : Base}
    (h : parse host port = .ok b) : b.Spelled := spelled_ofRest h

variable {b : Base}

/-- The user without the at sign, if there is one. -/
def user? (b : Base) : Option (List Char) := if b.user.isEmpty then none else some b.user.dropLast

/-- The spelling of the port, if it is written. -/
def portText? (b : Base) : Option (List Char) := b.port.map Text.Numeral.digits

/-- What says where is the user, the host and the port, in this order. -/
theorem authority_eq (b : Base) :
    b.authority = b.user ++ (b.host.text ++ b.portText?.elim [] (':' :: ·)) := by
  rw [authority, portText?, List.append_assoc]
  cases b.port <;> rfl

/-- Host and port have no marks but those of a host in brackets and of the port. -/
theorem Spelled.mem {c : Char} (h : b.Spelled)
    (hc : c ∈ b.host.text ++ b.portText?.elim [] (':' :: ·)) : c ∈ ":[]".toList ∨ c ∉ marks := by
  rcases List.mem_append.1 hc with hc | hc
  · exact h.host.mem hc
  · unfold portText? at hc
    cases hport : b.port with
    | none =>
      rw [hport] at hc
      exact absurd hc List.not_mem_nil
    | some n =>
      rw [hport] at hc
      rcases List.mem_cons.1 hc with rfl | hc
      · exact Or.inl (by decide)
      · exact Or.inr (isPlain_digits n c hc)

/-- Only a user brings an at sign. -/
theorem Spelled.not_mem (h : b.Spelled) : '@' ∉ b.host.text ++ b.portText?.elim [] (':' :: ·) := by
  intro hm
  rcases h.mem hm with hm | hm
  · exact absurd hm (by decide)
  · exact hm (by decide)

/-- The user is found again, and behind it stand host and port. -/
theorem Spelled.splitUser (h : b.Spelled) :
    splitUser b.authority = (b.user?, b.host.text ++ b.portText?.elim [] (':' :: ·)) := by
  rw [authority_eq]
  rcases h.user with huser | ⟨spelled, huser, -⟩
  · rw [user?, huser, List.nil_append, splitUser_of_not_mem h.not_mem]
    rfl
  · rw [user?, huser, List.append_assoc, List.singleton_append, splitUser_append h.not_mem]
    simp

/-- The port is found again: no colon in the host counts, and the one behind it does. -/
theorem Spelled.splitPort (h : b.Spelled) :
    splitPort false (b.host.text ++ b.portText?.elim [] (':' :: ·)) =
      (b.host.text, b.portText?) := by
  rw [splitPort_spelled h.host]
  cases b.portText? with
  | none =>
    show (b.host.text ++ [], none) = _
    rw [List.append_nil]
  | some ds =>
    show (b.host.text ++ [], some ds) = _
    rw [List.append_nil]

/-- What says where ends before the path. -/
theorem Spelled.endsAuthority (h : b.Spelled) :
    ∀ c ∈ b.authority, (!Base.endsAuthority c) = true := by
  intro c hc
  rw [Bool.not_eq_true', Bool.eq_false_iff]
  intro hends
  have hmark : c ∈ "/\\?#".toList := by simpa [Base.endsAuthority, or_assoc] using hends
  rw [authority_eq] at hc
  rcases List.mem_append.1 hc with hc | hc
  · rcases h.user with huser | ⟨spelled, huser, hspelled⟩
    · rw [huser] at hc
      exact absurd hc List.not_mem_nil
    · rw [huser] at hc
      rcases List.mem_append.1 hc with hc | hc
      · rw [hspelled c hc] at hends
        cases hends
      · obtain rfl := List.mem_singleton.1 hc
        cases hends
  · -- All four of these are marks, and none of them is a colon or a bracket.
    have hapart : ":[]".toList.any Base.endsAuthority = false := by decide
    have hmarks : "/\\?#".toList.all marks.contains = true := by decide
    rcases h.mem hc with hc | hc
    · exact List.any_eq_false.1 hapart c hc hends
    · exact hc (List.contains_iff_mem.1 (List.all_eq_true.1 hmarks c hmark))

end Base

/-! ## Addresses -/

namespace Parts

/-- The scheme and the two slashes are the same in all addresses, and the colon behind the scheme
is the first one. -/
theorem read?_http (cs : List Char) :
    read? (String.ofList (Address.scheme ++ cs)) = some (ofRest "http".toList cs) := by
  have htext : Address.scheme ++ cs = 'h' :: 't' :: 't' :: 'p' :: ':' :: '/' :: '/' :: cs := rfl
  rw [read?, String.toList_ofList, htext]
  rfl

/-- What comes after the path is taken apart at the first number sign. -/
theorem behind_eq {query : Option (List Char)} (h : ∀ q, query = some q → '#' ∉ q)
    (fragment : Option (List Char)) :
    queryOf (query.elim [] ('?' :: ·) ++ fragment.elim [] ('#' :: ·)) = query ∧
      ((query.elim [] ('?' :: ·) ++ fragment.elim [] ('#' :: ·)).dropWhile (· != '#')).tail? =
        fragment := by
  have hstop : ∀ c ∈ (fragment.elim [] ('#' :: ·)).head?, (c != '#') = false := by
    cases fragment <;> simp
  -- without a query the number sign comes first, if anything does
  cases query with
  | none =>
    cases fragment with
    | none => exact ⟨rfl, rfl⟩
    | some f => exact ⟨rfl, rfl⟩
  | some q =>
    have hq := Text.goesOn_of_not_mem (h q rfl)
    obtain ⟨hfront, hback⟩ := Text.divide_append hq _ hstop
    refine ⟨congrArg some hfront, ?_⟩
    show ((q ++ fragment.elim [] ('#' :: ·)).dropWhile (· != '#')).tail? = fragment
    rw [hback]
    cases fragment <;> rfl

/-- The parts of an address are found again in its text. -/
theorem read?_text {a : Address} (h : a.base.Spelled)
    (hquery : ∀ q, a.query = some q → '#' ∉ q) :
    read? a.text = some
      { scheme := "http".toList
        user := a.base.user?
        host := a.base.host.text
        port := a.base.portText?
        path := Segments.path a.segments
        query := a.query
        fragment := a.base.fragment } := by
  -- The text is taken apart from the outside in: what says where, the path, all that comes after.
  have htext : a.base.user ++ a.publicPart = a.base.authority ++ (Segments.path a.segments ++
      (a.query.elim [] ('?' :: ·) ++ a.base.fragment.elim [] ('#' :: ·))) := by
    simp only [Address.publicPart, Base.authority, List.nil_append, List.append_assoc]
  have hwhere := Text.divide_append h.endsAuthority (Segments.path a.segments ++
    (a.query.elim [] ('?' :: ·) ++ a.base.fragment.elim [] ('#' :: ·)))
    (by simp [Segments.path, Base.endsAuthority])
  -- every character of a path but the slash is one that is not escaped
  have hpath : ∀ c ∈ Segments.path a.segments, staysInPath c = true := by
    intro c hc
    rw [staysInPath, Bool.and_eq_true, bne_iff_ne, bne_iff_ne]
    constructor
    · rintro rfl
      exact Segments.not_mem_path (by decide) (by decide +kernel) hc
    · rintro rfl
      exact Segments.not_mem_path (by decide) (by decide +kernel) hc
  have hbehind := Text.divide_append hpath
    (a.query.elim [] ('?' :: ·) ++ a.base.fragment.elim [] ('#' :: ·)) (by
      cases a.query <;> cases a.base.fragment <;> simp [staysInPath])
  obtain ⟨hq, hf⟩ := behind_eq hquery a.base.fragment
  rw [Address.text, List.append_assoc, read?_http, htext, ofRest]
  simp only [hwhere.1, hwhere.2, h.splitUser, h.splitPort, hbehind.1, hbehind.2, hq, hf]

end Parts

end PushToTalk.Url
