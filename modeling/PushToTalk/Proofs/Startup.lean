import PushToTalk.Proofs.CommandLine
import PushToTalk.Startup

/-
  The settings at the start, field by field.

  A configuration may come from a file, from the command line or from neither, and whoever starts
  the relay wants to know which of them is in force.  A configuration value gives fields by their
  paths. `Field` lists the documented fields, each with its path, what it holds, its default and its
  place in the configuration; the main statement is made once for all of them.

  1. **Values by their paths** — `Chosen` says what it means that a field is what stands at its
     path, or its default.

  2. **One field** — a field of a group is read as the value that stands under its name, or as its
     default (`field_chosen`); a group that is a field itself is read from the value under its name
     (`group_chosen`).

  3. **All fields** — so each group, and by them the configuration, has at every path what stands
     there or the default, whatever stands elsewhere (`ofValue_chosen`).  The fields of a group
     become fields of the whole one step up the path (`Chosen.above`).

  4. **The command line** — its options are laid over three of the fields; a topic of which nothing
     is left does not count (`settings_topic`).

  Values of another kind than the documented one are left out (`Documented`).  A number that is
  given for a text, or a text for a number, is read in its own way; for numbers see `Config.Number`.

  Main statement: `settings_resolved`.
-/

namespace PushToTalk

namespace Config

/-! ## Values by their paths -/

/-- The value at the end of a path of names. -/
def Value.at? : List String → Value → Option Value
  | [], v => some v
  | key :: path, v => (v.lookup? key).bind (Value.at? path)

/-- A value that has entries under names. -/
def Value.IsTable (v : Value) : Prop := ∃ origin entries, v = .table origin entries

/-- What a field holds. -/
inductive Kind
  | text
  | port
  | number
  | truth

/-- The type of what a field holds. -/
abbrev Kind.Carrier : Kind → Type
  | .text => String
  | .port => UInt16
  | .number => Nat
  | .truth => Bool

/-- A value stands for `x`: it is of the kind, and a number is not too large for it. -/
def Kind.Stands (v : Value) : (kind : Kind) → kind.Carrier → Prop
  | .text, s => ∃ origin, v = .scalar origin (.text s)
  | .port, n => ∃ origin, v = .scalar origin (.whole n.toNat)
  | .number, n => n < UInt64.size ∧ ∃ origin, v = .scalar origin (.whole n)
  | .truth, b => ∃ origin, v = .scalar origin (.truth b)

/-- How a field of a kind is read. -/
def Kind.read : (kind : Kind) → Value → Except Problem kind.Carrier
  | .text => readText
  | .port => readPort
  | .number => readNumber
  | .truth => readTruth

variable {v w : Value} {kind : Kind} {x y : kind.Carrier} {path : List String} {key : String}

/-- A value of the kind is read as what it stands for. -/
theorem Kind.read_of_stands (h : kind.Stands v x) : kind.read v = .ok x := by
  cases kind with
  | text =>
    obtain ⟨origin, rfl⟩ := h
    rfl
  | port =>
    obtain ⟨origin, rfl⟩ := h
    have hread : readNumber (.scalar origin (.whole (UInt16.toNat x))) = .ok (UInt16.toNat x) := by
      simp [readNumber]
    have hport : readPort (.scalar origin (.whole (UInt16.toNat x))) = .ok x := by
      rw [readPort, hread]
      exact congrArg Except.ok UInt16.ofNat_toNat
    exact hport
  | number =>
    obtain ⟨-, origin, rfl⟩ := h
    have hread : readNumber (.scalar origin (.whole (x : Nat))) = .ok x := by
      simp [readNumber]
    exact hread
  | truth =>
    obtain ⟨origin, rfl⟩ := h
    rfl

/-- A value stands for one thing only. -/
theorem Kind.stands_unique (hx : kind.Stands v x) (hy : kind.Stands v y) : x = y := by
  have hread := read_of_stands hx
  rw [read_of_stands hy] at hread
  exact (Except.ok.inj hread).symm

/-- What stands at the end of a path is of a kind, if anything stands there. -/
def Typed (v : Value) (path : List String) (kind : Kind) : Prop :=
  ∀ w, v.at? path = some w → ∃ x, kind.Stands w x

/-- `x` is what stands at the end of a path, or the default if nothing does. -/
structure Chosen (v : Value) (path : List String) (kind : Kind) (standard x : kind.Carrier) :
    Prop where
  given : ∀ w, v.at? path = some w → kind.Stands w x
  missing : v.at? path = none → x = standard

/-! ## One field -/

/-- In a table the value of a field is looked up under its name. -/
theorem given?_of_isTable (h : v.IsTable) (index : Nat) (key : String) :
    v.given? index key = (v.lookup? key).map fun w => (.name key, w) := by
  obtain ⟨origin, entries, rfl⟩ := h
  rfl

/-- A table passes for a group. -/
theorem checkGroup_of_isTable (h : v.IsTable) (name : String) : v.checkGroup name = .ok () := by
  obtain ⟨origin, entries, rfl⟩ := h
  rfl

/-- A field of a table is what its reader makes of the value under its name, or its default. -/
theorem field_of_isTable {α : Type} (h : v.IsTable) (index : Nat) {key : String}
    {read : Value → Except Problem α} (standard : α)
    (hread : ∀ w, v.lookup? key = some w → ∃ a, read w = .ok a) :
    ∃ a, v.field index key read standard = .ok a ∧
      (∀ w, v.lookup? key = some w → read w = .ok a) ∧ (v.lookup? key = none → a = standard) := by
  have hgiven := given?_of_isTable h index key
  cases hw : v.lookup? key with
  | none =>
    rw [hw] at hgiven
    refine ⟨standard, field_eq_of_missing hgiven read standard, ?_, fun _ => rfl⟩
    intro w hw'
    cases hw'
  | some w =>
    rw [hw] at hgiven
    obtain ⟨a, ha⟩ := hread w hw
    refine ⟨a, (field_eq_ok_iff hgiven read standard a).2 ha, ?_, ?_⟩
    · intro w' hw'
      cases hw'
      exact ha
    · intro hnone
      cases hnone

/-- A path of one name is a name to look up. -/
theorem Value.at?_singleton (v : Value) (key : String) : v.at? [key] = v.lookup? key := by
  show (v.lookup? key).bind some = v.lookup? key
  cases v.lookup? key <;> rfl

/-- A field whose value is of its kind is read, as what stands under its name or as its default. -/
theorem field_chosen (h : v.IsTable) (index : Nat) (ht : Typed v [key] kind)
    (standard : kind.Carrier) :
    ∃ x, v.field index key kind.read standard = .ok x ∧ Chosen v [key] kind standard x := by
  have hread : ∀ w, v.lookup? key = some w → ∃ a, kind.read w = .ok a := by
    intro w hw
    obtain ⟨x, hx⟩ := ht w (by rw [Value.at?_singleton, hw])
    exact ⟨x, Kind.read_of_stands hx⟩
  obtain ⟨x, hx, hgiven, hmissing⟩ := field_of_isTable h index standard hread
  refine ⟨x, hx, ?_, ?_⟩
  · intro w hw
    obtain ⟨y, hy⟩ := ht w hw
    rw [Value.at?_singleton] at hw
    have hsame := hgiven w hw
    rw [Kind.read_of_stands hy] at hsame
    rwa [← Except.ok.inj hsame]
  · intro hnone
    rw [Value.at?_singleton] at hnone
    exact hmissing hnone

/-- A field of a group is a field of what the group stands in. -/
theorem Typed.below (h : Typed v (key :: path) kind) (hw : v.lookup? key = some w) :
    Typed w path kind := by
  intro u hu
  apply h u
  rw [Value.at?, hw]
  exact hu

/-- What was chosen in a group is chosen in what the group stands in; without the group it is the
default. -/
theorem Chosen.above {standard : kind.Carrier}
    (hgiven : ∀ w, v.lookup? key = some w → Chosen w path kind standard x)
    (hmissing : v.lookup? key = none → x = standard) :
    Chosen v (key :: path) kind standard x := by
  constructor
  · intro u hu
    obtain ⟨w, hw, hu⟩ := Option.bind_eq_some_iff.1 hu
    exact (hgiven w hw).given u hu
  · intro hnone
    cases hw : v.lookup? key with
    | none => exact hmissing hw
    | some w =>
      rw [Value.at?, hw] at hnone
      exact (hgiven w hw).missing hnone

/-- A group that is a field is read from the value under its name, or has its default. -/
theorem group_chosen {α : Type} (h : v.IsTable) (index : Nat) {read : Value → Except Problem α}
    (standard : α) {P : Value → α → Prop}
    (hread : ∀ w, v.lookup? key = some w → ∃ a, read w = .ok a ∧ P w a) :
    ∃ a, v.field index key read standard = .ok a ∧ (∀ w, v.lookup? key = some w → P w a) ∧
      (v.lookup? key = none → a = standard) := by
  have hreads : ∀ w, v.lookup? key = some w → ∃ a, read w = .ok a := by
    intro w hw
    obtain ⟨a, ha, -⟩ := hread w hw
    exact ⟨a, ha⟩
  obtain ⟨a, ha, hgiven, hmissing⟩ := field_of_isTable h index standard hreads
  refine ⟨a, ha, ?_, hmissing⟩
  intro w hw
  obtain ⟨b, hb, hp⟩ := hread w hw
  rw [hgiven w hw] at hb
  rwa [Except.ok.inj hb]

/-! ## All fields -/

/-- A documented field. -/
structure Field where
  path : List String
  kind : Kind
  /-- Its default. -/
  standard : kind.Carrier
  /-- Its place in a configuration. -/
  get : Config → kind.Carrier

/-- The documented fields. -/
def fields : List Field :=
  [⟨["service", "name"], .text, "voice-relay", fun c => c.service.name⟩,
    ⟨["service", "http", "bind"], .text, "127.0.0.1", fun c => c.service.listener.bind⟩,
    ⟨["service", "http", "port"], .port, (8090 : UInt16), fun c => c.service.listener.port⟩,
    ⟨["backend", "host"], .text, "localhost", fun c => c.backend.host⟩,
    ⟨["backend", "port"], .port, (8080 : UInt16), fun c => c.backend.port⟩,
    ⟨["backend", "request_timeout_secs"], .number, (8 : Nat), fun c => c.backend.timeout⟩,
    ⟨["chat", "topic"], .text, "RADIO", fun c => c.chat.topic⟩,
    ⟨["recording", "root_dir"], .text, ".", fun c => c.recording.root⟩,
    ⟨["recording", "poll_interval_ms"], .number, (100 : Nat), fun c => c.recording.pollInterval⟩,
    ⟨["recording", "speaking_timeout_ms"], .number, (100 : Nat),
      fun c => c.recording.speakingTimeout⟩,
    ⟨["recording", "notify_on_stop"], .truth, false, fun c => c.recording.notifyOnStop⟩,
    ⟨["limits", "max_concurrent_uploads"], .number, (4 : Nat), fun c => c.limits.uploads⟩,
    ⟨["limits", "max_concurrent_tick_fetches"], .number, (16 : Nat), fun c => c.limits.fetches⟩]

/-- The groups that the fields stand in. -/
def groups : List (List String) :=
  [["service"], ["service", "http"], ["backend"], ["chat"], ["recording"], ["limits"]]

/-- A value that gives any of the documented fields, each of its kind; what else it gives does not
matter. -/
structure Documented (v : Value) : Prop where
  top : v.IsTable
  groups : ∀ path ∈ groups, ∀ w, v.at? path = some w → w.IsTable
  fields : ∀ f ∈ fields, Typed v f.path f.kind

/-- The two fields of the listener. -/
theorem Listener.ofValue_chosen (h : v.IsTable) (hbind : Typed v ["bind"] .text)
    (hport : Typed v ["port"] .port) : ∃ l, Listener.ofValue v = .ok l ∧
      Chosen v ["bind"] .text "127.0.0.1" l.bind ∧ Chosen v ["port"] .port 8090 l.port := by
  obtain ⟨bind, hb, cbind⟩ := field_chosen h 0 hbind Listener.standard.bind
  obtain ⟨port, hp, cport⟩ := field_chosen h 1 hport Listener.standard.port
  refine ⟨⟨bind, port⟩, ?_, cbind, cport⟩
  simp only [Kind.read] at hb hp
  rw [Listener.ofValue, checkGroup_of_isTable h, hb, hp]
  rfl

/-- The name of the service, and the listener as a group in it. -/
theorem Service.ofValue_chosen (h : v.IsTable) (hname : Typed v ["name"] .text)
    (hhttp : ∀ w, v.lookup? "http" = some w → w.IsTable) (hbind : Typed v ["http", "bind"] .text)
    (hport : Typed v ["http", "port"] .port) : ∃ s, Service.ofValue v = .ok s ∧
      Chosen v ["name"] .text "voice-relay" s.name ∧
      Chosen v ["http", "bind"] .text "127.0.0.1" s.listener.bind ∧
      Chosen v ["http", "port"] .port 8090 s.listener.port := by
  obtain ⟨name, hn, cname⟩ := field_chosen h 0 hname Service.standard.name
  obtain ⟨listener, hl, hgiven, hmissing⟩ := group_chosen h 1 Listener.standard fun w hw =>
    Listener.ofValue_chosen (hhttp w hw) (hbind.below hw) (hport.below hw)
  refine ⟨⟨name, listener⟩, ?_, cname, ?_, ?_⟩
  · simp only [Kind.read] at hn
    rw [Service.ofValue, checkGroup_of_isTable h, hn, hl]
    rfl
  · exact .above (fun w hw => (hgiven w hw).1) fun hnone => by rw [hmissing hnone]; rfl
  · exact .above (fun w hw => (hgiven w hw).2) fun hnone => by rw [hmissing hnone]; rfl

/-- The three fields of the backend. -/
theorem Backend.ofValue_chosen (h : v.IsTable) (hhost : Typed v ["host"] .text)
    (hport : Typed v ["port"] .port) (htimeout : Typed v ["request_timeout_secs"] .number) :
    ∃ b, Backend.ofValue v = .ok b ∧ Chosen v ["host"] .text "localhost" b.host ∧
      Chosen v ["port"] .port 8080 b.port ∧
      Chosen v ["request_timeout_secs"] .number (8 : Nat) b.timeout := by
  obtain ⟨host, hh, chost⟩ := field_chosen h 0 hhost Backend.standard.host
  obtain ⟨port, hp, cport⟩ := field_chosen h 1 hport Backend.standard.port
  obtain ⟨timeout, ht, ctimeout⟩ := field_chosen h 2 htimeout Backend.standard.timeout
  refine ⟨⟨host, port, timeout⟩, ?_, chost, cport, ctimeout⟩
  simp only [Kind.read] at hh hp ht
  rw [Backend.ofValue, checkGroup_of_isTable h, hh, hp, ht]
  rfl

/-- The one field of the chat. -/
theorem Chat.ofValue_chosen (h : v.IsTable) (htopic : Typed v ["topic"] .text) :
    ∃ c, Chat.ofValue v = .ok c ∧ Chosen v ["topic"] .text "RADIO" c.topic := by
  obtain ⟨topic, ht, ctopic⟩ := field_chosen h 0 htopic Chat.standard.topic
  refine ⟨⟨topic⟩, ?_, ctopic⟩
  simp only [Kind.read] at ht
  rw [Chat.ofValue, checkGroup_of_isTable h, ht]
  rfl

/-- The four fields of the recording. -/
theorem Recording.ofValue_chosen (h : v.IsTable) (hroot : Typed v ["root_dir"] .text)
    (hpoll : Typed v ["poll_interval_ms"] .number)
    (hspeaking : Typed v ["speaking_timeout_ms"] .number)
    (hnotify : Typed v ["notify_on_stop"] .truth) : ∃ r, Recording.ofValue v = .ok r ∧
      Chosen v ["root_dir"] .text "." r.root ∧
      Chosen v ["poll_interval_ms"] .number (100 : Nat) r.pollInterval ∧
      Chosen v ["speaking_timeout_ms"] .number (100 : Nat) r.speakingTimeout ∧
      Chosen v ["notify_on_stop"] .truth false r.notifyOnStop := by
  obtain ⟨root, hr, croot⟩ := field_chosen h 0 hroot Recording.standard.root
  obtain ⟨poll, hp, cpoll⟩ := field_chosen h 1 hpoll Recording.standard.pollInterval
  obtain ⟨speaking, hs, cspeaking⟩ := field_chosen h 2 hspeaking Recording.standard.speakingTimeout
  obtain ⟨notify, hn, cnotify⟩ := field_chosen h 3 hnotify Recording.standard.notifyOnStop
  refine ⟨⟨root, poll, speaking, notify⟩, ?_, croot, cpoll, cspeaking, cnotify⟩
  simp only [Kind.read] at hr hp hs hn
  rw [Recording.ofValue, checkGroup_of_isTable h, hr, hp, hs, hn]
  rfl

/-- The two limits. -/
theorem Limits.ofValue_chosen (h : v.IsTable)
    (huploads : Typed v ["max_concurrent_uploads"] .number)
    (hfetches : Typed v ["max_concurrent_tick_fetches"] .number) :
    ∃ l, Limits.ofValue v = .ok l ∧
      Chosen v ["max_concurrent_uploads"] .number (4 : Nat) l.uploads ∧
      Chosen v ["max_concurrent_tick_fetches"] .number (16 : Nat) l.fetches := by
  obtain ⟨uploads, hu, cuploads⟩ := field_chosen h 0 huploads Limits.standard.uploads
  obtain ⟨fetches, hf, cfetches⟩ := field_chosen h 1 hfetches Limits.standard.fetches
  refine ⟨⟨uploads, fetches⟩, ?_, cuploads, cfetches⟩
  simp only [Kind.read] at hu hf
  rw [Limits.ofValue, checkGroup_of_isTable h, hu, hf]
  rfl

/-- The fields of a documented value by their places in the list. -/
theorem Documented.typed (h : Documented v) (i : Nat) (hi : i < Config.fields.length) :
    Typed v Config.fields[i].path Config.fields[i].kind := h.fields _ (List.getElem_mem hi)

/-- A group that is there is a table. -/
theorem Documented.group (h : Documented v) (key : String) (hkey : [key] ∈ Config.groups) :
    ∀ w, v.lookup? key = some w → w.IsTable := by
  intro w hw
  exact h.groups [key] hkey w (by rw [Value.at?_singleton, hw])

/-- Each field of the configuration is what stands at its path, or its default. -/
theorem ofValue_chosen (h : Documented v) : ∃ c, ofValue v = .ok c ∧
    ∀ f ∈ fields, Chosen v f.path f.kind f.standard (f.get c) := by
  have hhttp : ∀ w, v.lookup? "service" = some w →
      ∀ u, w.lookup? "http" = some u → u.IsTable := by
    intro w hw u hu
    refine h.groups ["service", "http"] (by decide) u ?_
    rw [Value.at?, hw]
    exact (Value.at?_singleton w "http").trans hu
  have hservice := h.group "service" (by decide)
  have hbackend := h.group "backend" (by decide)
  have hchat := h.group "chat" (by decide)
  have hrecording := h.group "recording" (by decide)
  have hlimits := h.group "limits" (by decide)
  obtain ⟨service, hs, sgiven, smissing⟩ :=
    group_chosen h.top 0 Service.standard fun w hw =>
      Service.ofValue_chosen (hservice w hw)
        ((h.typed 0 (by decide)).below hw) (hhttp w hw)
        ((h.typed 1 (by decide)).below hw) ((h.typed 2 (by decide)).below hw)
  obtain ⟨backend, hb, bgiven, bmissing⟩ :=
    group_chosen h.top 1 Backend.standard fun w hw =>
      Backend.ofValue_chosen (hbackend w hw) ((h.typed 3 (by decide)).below hw)
        ((h.typed 4 (by decide)).below hw) ((h.typed 5 (by decide)).below hw)
  obtain ⟨chat, hc, cgiven, cmissing⟩ :=
    group_chosen h.top 2 Chat.standard fun w hw =>
      Chat.ofValue_chosen (hchat w hw) ((h.typed 6 (by decide)).below hw)
  obtain ⟨recording, hr, rgiven, rmissing⟩ :=
    group_chosen h.top 3 Recording.standard fun w hw =>
      Recording.ofValue_chosen (hrecording w hw) ((h.typed 7 (by decide)).below hw)
        ((h.typed 8 (by decide)).below hw) ((h.typed 9 (by decide)).below hw)
        ((h.typed 10 (by decide)).below hw)
  obtain ⟨limits, hl, lgiven, lmissing⟩ :=
    group_chosen h.top 4 Limits.standard fun w hw =>
      Limits.ofValue_chosen (hlimits w hw) ((h.typed 11 (by decide)).below hw)
        ((h.typed 12 (by decide)).below hw)
  refine ⟨⟨service, backend, chat, recording, limits⟩, ?_, ?_⟩
  · rw [ofValue, checkGroup_of_isTable h.top, hs, hb, hc, hr, hl]
    rfl
  · intro f hf
    -- one field after the other: its group is there, and what was said of the group is one step
    -- above, or the group is missing, and its default has the default of the field
    simp only [fields, List.mem_cons, List.not_mem_nil, or_false] at hf
    rcases hf with rfl | rfl | rfl | rfl | rfl | rfl | rfl | rfl | rfl | rfl | rfl | rfl | rfl
    · exact .above (fun w hw => (sgiven w hw).1) fun hnone => by rw [smissing hnone]; rfl
    · exact .above (fun w hw => (sgiven w hw).2.1) fun hnone => by rw [smissing hnone]; rfl
    · exact .above (fun w hw => (sgiven w hw).2.2) fun hnone => by rw [smissing hnone]; rfl
    · exact .above (fun w hw => (bgiven w hw).1) fun hnone => by rw [bmissing hnone]; rfl
    · exact .above (fun w hw => (bgiven w hw).2.1) fun hnone => by rw [bmissing hnone]; rfl
    · exact .above (fun w hw => (bgiven w hw).2.2) fun hnone => by rw [bmissing hnone]; rfl
    · exact .above (fun w hw => cgiven w hw) fun hnone => by rw [cmissing hnone]; rfl
    · exact .above (fun w hw => (rgiven w hw).1) fun hnone => by rw [rmissing hnone]; rfl
    · exact .above (fun w hw => (rgiven w hw).2.1) fun hnone => by rw [rmissing hnone]; rfl
    · exact .above (fun w hw => (rgiven w hw).2.2.1) fun hnone => by rw [rmissing hnone]; rfl
    · exact .above (fun w hw => (rgiven w hw).2.2.2) fun hnone => by rw [rmissing hnone]; rfl
    · exact .above (fun w hw => (lgiven w hw).1) fun hnone => by rw [lmissing hnone]; rfl
    · exact .above (fun w hw => (lgiven w hw).2) fun hnone => by rw [lmissing hnone]; rfl

/-- A field hangs on what stands at its path and on nothing else. -/
theorem chosen_congr {v' : Value} {standard x y : kind.Carrier}
    (hsame : v.at? path = v'.at? path) (hx : Chosen v path kind standard x)
    (hy : Chosen v' path kind standard y) : x = y := by
  cases hw : v.at? path with
  | none => rw [hx.missing hw, hy.missing (hsame ▸ hw)]
  | some w => exact Kind.stands_unique (hx.given w hw) (hy.given w (hsame ▸ hw))

/-- A table without entries gives nothing. -/
theorem documented_made : Documented .made := by
  have hnone : ∀ path : List String, path ≠ [] → Value.made.at? path = none := by
    intro path hpath
    cases path with
    | nil => exact absurd rfl hpath
    | cons key rest => rfl
  constructor
  · exact ⟨none, [], rfl⟩
  · intro path hpath w hw
    have hne : ∀ path ∈ Config.groups, path ≠ [] := by decide
    rw [hnone path (hne path hpath)] at hw
    cases hw
  · intro f hf w hw
    have hne : ∀ path ∈ Config.fields.map Field.path, path ≠ [] := by decide
    rw [hnone f.path (hne f.path (List.mem_map_of_mem hf))] at hw
    cases hw

/-- Without a file every field has its default. -/
theorem load_of_missing {d : Disk} {here : Path} {name : String}
    (h : locate d ((Path.ofText name).under here) = none) :
    ∃ c, load d here name = .ok c ∧ ∀ f ∈ fields, f.get c = f.standard := by
  obtain ⟨c, hc, hchosen⟩ := ofValue_chosen documented_made
  refine ⟨c, ?_, ?_⟩
  · rw [load, loadValue, h]
    show (ofValue Value.made).mapError (Failure.invalid name) = .ok c
    rw [hc]
    rfl
  · intro f hf
    -- a table without entries has nothing at any path
    apply (hchosen f hf).missing
    simp only [fields, List.mem_cons, List.not_mem_nil, or_false] at hf
    rcases hf with rfl | rfl | rfl | rfl | rfl | rfl | rfl | rfl | rfl | rfl | rfl | rfl | rfl <;>
      rfl

end Config

/-! ## The command line -/

open CommandLine (Spells)

/-- The topic at the start: the option's, if anything is left of it, else the configuration's, if
anything is left of that, else the standard one. -/
theorem CommandLine.Arguments.settings_topic (a : CommandLine.Arguments) (c : Config) :
    (a.settings c).topic =
      if Topic.sanitise (a.topic.getD "") ≠ "" then Topic.sanitise (a.topic.getD "")
      else if Topic.sanitise c.chat.topic ≠ "" then Topic.sanitise c.chat.topic else "RADIO" := by
  have hstart : c.settings.topic =
      if Topic.sanitise c.chat.topic ≠ "" then Topic.sanitise c.chat.topic else "RADIO" := by
    show Settings.startTopic c.chat.topic = _
    unfold Settings.startTopic
    by_cases hempty : Topic.sanitise c.chat.topic = "" <;> simp [hempty, Topic.standard]
  have hblank : Topic.sanitise "" = "" := by decide
  unfold CommandLine.Arguments.settings
  -- host and port have no part in the topic
  generalize hs : (a.port.map ((a.host.map c.settings.setHost).getD c.settings).setPort).getD
    ((a.host.map c.settings.setHost).getD c.settings) = s
  have hkept : s.topic = c.settings.topic := by
    rw [← hs]
    cases a.host <;> cases a.port <;> rfl
  cases a.topic with
  | none => simp [hs, hkept, hstart, hblank]
  | some text =>
    by_cases hempty : Topic.sanitise text = ""
    · simp [hs, Settings.setTopic, Settings.acceptsTopic, hempty, hkept, hstart]
    · simp [hs, Settings.setTopic, Settings.acceptsTopic, hempty]

-- An option of which nothing is left leaves the configured topic in force.
example (c : Config) (h : c.chat.topic = "Bravo 2") :
    (CommandLine.Arguments.settings ⟨none, none, none, some "#!/ -"⟩ c).topic = "Bravo2" := by
  rw [CommandLine.Arguments.settings_topic, h]
  decide

/-- What is in force at the start, given a configuration and the options of a command line. -/
structure CommandLine.Arguments.Resolves (a : CommandLine.Arguments) (c : Config)
    (given : List (CommandLine.Key × String)) : Prop where
  host : (a.settings c).host = (given.lookup .host).getD c.backend.host
  port : given.lookup .port = Option.none → (a.settings c).port = c.backend.port
  portGiven : ∀ text, given.lookup .port = some text →
    CommandLine.readPort text = .ok (a.settings c).port
  topic : (a.settings c).topic =
    if Topic.sanitise ((given.lookup .topic).getD "") ≠ "" then
      Topic.sanitise ((given.lookup .topic).getD "")
    else if Topic.sanitise c.chat.topic ≠ "" then Topic.sanitise c.chat.topic else "RADIO"

/-- What was gathered from a command line is laid over a configuration. -/
theorem CommandLine.Gathered.resolves {a : CommandLine.Arguments}
    {given : List (CommandLine.Key × String)} (h : CommandLine.Gathered .start given a)
    (c : Config) : a.Resolves c given where
  host := by
    have hhost : a.host = given.lookup .host := h.host.trans (Option.or_none)
    rw [a.settings_host, hhost]
  port := by
    intro hnone
    have hport : a.port = Option.none := by rw [h.port, hnone]; rfl
    rw [a.settings_port, hport]
    rfl
  portGiven := by
    intro text htext
    obtain ⟨n, hn⟩ := h.isPort text htext
    have hport : a.port = some n := by rw [h.port, htext, Option.bind_some, hn]; rfl
    rw [a.settings_port, hport, hn]
    rfl
  topic := by
    have htopic : a.topic = given.lookup .topic := h.topic.trans (Option.or_none)
    rw [a.settings_topic, htopic]

/-- A value that gives some of the documented fields is loaded, and each field of the configuration
is what the value gives for it, or its default; so two values that give the same for a field agree
on it, whatever else they give.  An accepted command line spells options, none of them twice, and
its host, port and topic go before those of the configuration. -/
theorem settings_resolved {v : Config.Value} (hv : Config.Documented v) {arguments : List String}
    {a : CommandLine.Arguments} (ha : CommandLine.read arguments = .ok a) :
    ∃ c, Config.ofValue v = .ok c ∧
      (∀ d here name, Config.loadValue d here name = .ok v → Config.load d here name = .ok c) ∧
      (∀ f ∈ Config.fields, Config.Chosen v f.path f.kind f.standard (f.get c)) ∧
      (∀ v' c', Config.Documented v' → Config.ofValue v' = .ok c' →
        ∀ f ∈ Config.fields, v.at? f.path = v'.at? f.path → f.get c = f.get c') ∧
      ∃ given, Spells given arguments ∧ (given.map (·.1)).Nodup ∧ a.Resolves c given := by
  obtain ⟨c, hc, hchosen⟩ := Config.ofValue_chosen hv
  obtain ⟨given, hspells, hgathered⟩ := CommandLine.given_of_read ha
  refine ⟨c, hc, ?_, hchosen, ?_, given, hspells, hgathered.distinct, hgathered.resolves c⟩
  · intro d here name hload
    rw [Config.load, hload]
    show (Config.ofValue v).mapError (Config.Failure.invalid name) = .ok c
    rw [hc]
    rfl
  · intro v' c' hv' hc' f hf hsame
    obtain ⟨c'', hc'', hchosen'⟩ := Config.ofValue_chosen hv'
    rw [hc'] at hc''
    obtain rfl := Except.ok.inj hc''
    exact Config.chosen_congr hsame (hchosen f hf) (hchosen' f hf)

/-- Two fields and a key that is not known. -/
def Config.Value.sample : Config.Value :=
  .table none [("backend", .table none [("host", .scalar none (.text "transcriber.local"))]),
    ("limits", .table none [("max_concurrent_uploads", .scalar none (.whole 2))]),
    ("extra", .list none [])]

/-- The sample gives documented fields. -/
theorem Config.documented_sample : Config.Documented .sample := by
  constructor
  · exact ⟨none, _, rfl⟩
  · intro path hpath w hw
    simp only [groups, List.mem_cons, List.not_mem_nil, or_false] at hpath
    rcases hpath with rfl | rfl | rfl | rfl | rfl | rfl <;> cases hw <;> exact ⟨none, _, rfl⟩
  · intro f hf w hw
    simp only [fields, List.mem_cons, List.not_mem_nil, or_false] at hf
    rcases hf with rfl | rfl | rfl | rfl | rfl | rfl | rfl | rfl | rfl | rfl | rfl | rfl | rfl <;>
      cases hw
    · exact ⟨"transcriber.local", none, rfl⟩
    · exact ⟨(2 : Nat), by decide, none, rfl⟩

/-- A host from the file, a port and a topic from the command line, and all other fields from
neither. -/
theorem settings_resolved_sample :
    let arguments := ["--topic", "Ops Room!", "--port=9000"]
    Config.Documented .sample ∧ ∃ a, CommandLine.read arguments = .ok a ∧
      ∃ c, Config.ofValue .sample = .ok c ∧
        (∀ f ∈ Config.fields, Config.Chosen .sample f.path f.kind f.standard (f.get c)) ∧
        ∃ given, Spells given arguments ∧ a.Resolves c given := by
  intro arguments
  have ha : CommandLine.read arguments = .ok ⟨none, none, some 9000, some "Ops Room!"⟩ := by rfl
  obtain ⟨c, hc, -, hchosen, -, given, hspells, -, hresolves⟩ :=
    settings_resolved Config.documented_sample ha
  exact ⟨Config.documented_sample, _, ha, c, hc, hchosen, given, hspells, hresolves⟩

end PushToTalk
