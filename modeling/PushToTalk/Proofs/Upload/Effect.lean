import PushToTalk.Proofs.Disk.Removal
import PushToTalk.Proofs.Upload.Retry

/-
  All that one pass does.

  A pass that is not disturbed deals with every file that it is given, once for each time that it is
  given it.  What it leaves behind hangs on these dealings alone: what was said to the backend, what
  is reported, what is in the retry cache, and what is gone from the disk.

  1. **The retry cache** — `entryAfter` runs through the dealings with one file; the last of them
     decides (`Passes.entry`, `Passes.last_entry`).  A file that comes twice is why there is more to
     it than one look at a fate: what the first dealing leaves is what the second one finds.

  2. **The disk** — every delivery takes one entry away, never the same twice, and the end of the
     pass takes empty directories away (`Passes.disk`, `Passes.once`, `Passes.finish_disk`).  A
     skipped file has another name than any file that is delivered, so its entry stays
     (`Passes.skipped_entry_ne`).

  3. **All of it** — `Pass.Effect` is one structure, so that whoever reads it sees the whole effect,
     and that there is nothing besides.

  Nobody but the pass may touch the cache, the disk or the folders in the meantime
  (`Pass.Undisturbed`); what the backend does to settings and users is free.

  Main statement: `pass_effect`.
-/

namespace PushToTalk.Upload

open Disk

variable {τ : Type} {p : Pass τ} {t t' : τ} {s s' : Station} {attempts front back : List Attempt}
  {a b : Attempt} {file : Path} {cache : RetryCache}

/-- The backend gave its verdict on the file. -/
def Fate.IsDelivery (fate : Fate) : Prop := fate = .uploaded ∨ fate = .rejected

instance (fate : Fate) : Decidable fate.IsDelivery :=
  inferInstanceAs (Decidable (fate = .uploaded ∨ fate = .rejected))

/-- Whether a file was delivered in one of the dealings. -/
def wasDelivered (attempts : List Attempt) (file : Path) : Bool :=
  attempts.any fun a => a.file == file && decide a.fate.IsDelivery

/-- A file was delivered in the last dealing, or before. -/
theorem wasDelivered_snoc (attempts : List Attempt) (a : Attempt) (file : Path) :
    wasDelivered (attempts ++ [a]) file =
      (wasDelivered attempts file || a.file == file && decide a.fate.IsDelivery) := by
  simp [wasDelivered]

namespace Pass

/-- Every tick comes, the backend answers everything without killing the worker, and nobody but the
pass touches the cache, the disk and the folders. -/
structure Undisturbed (p : Pass τ) : Prop where
  ticks : ∀ user request, p.pending.get? user = some request →
    (p.answer? request.fetch).isSome
  answers : ∀ t s request, ∃ t' s' answer, p.backend t s request = some (t', s', answer) ∧
    answer ≠ .death ∧ s'.cache = s.cache ∧ s'.disk = s.disk ∧ s'.folders = s.folders

/-- A pass that is not disturbed has all it needs to come to its end. -/
theorem Undisturbed.complete (h : p.Undisturbed) : p.Complete where
  ticks := h.ticks
  answers t s request := by
    obtain ⟨t', s', answer, hb, hne, hcache, -⟩ := h.answers t s request
    exact ⟨t', s', answer, hb, hne, hcache⟩

/-- No exchange changes the disk or the folders. -/
theorem Undisturbed.talks (h : p.Undisturbed) {xs : List Exchange}
    (ht : Talks p.backend t s xs t' s') : s'.disk = s.disk ∧ s'.folders = s.folders := by
  induction ht with
  | nil => exact ⟨rfl, rfl⟩
  | @snoc xs x t₁ t₂ s₁ s₂ _ hx ih =>
    obtain ⟨_, _, _, hb, -, -, hdisk, hfolders⟩ := h.answers t₁ s₁ x.request
    rw [hx] at hb
    obtain ⟨rfl, rfl, rfl⟩ : t₂ = _ ∧ s₂ = _ ∧ x.answer = _ := by simpa using hb
    exact ⟨hdisk.trans ih.1, hfolders.trans ih.2⟩

/-! ## The retry cache -/

/-- What a dealing makes of the entry of its file. -/
def entryStep (p : Pass τ) (file : Path) (entry : Option TickData) (a : Attempt) :
    Option TickData :=
  if a.file == file then
    match a.fate with
    | .skipped => entry
    | .failed => some (entry.getD (p.liveFor file))
    | .uploaded | .rejected => none
  else entry

/-- The entry of a file after some dealings. -/
def entryAfter (p : Pass τ) (cache : RetryCache) (attempts : List Attempt) (file : Path) :
    Option TickData :=
  attempts.foldl (p.entryStep file) (cache.get? file)

/-- The tick that a file is filed under after some dealings: once it was delivered the one that was
requested, else the one that was in the cache before the pass, if there was one. -/
def resolved (p : Pass τ) (cache : RetryCache) (front : List Attempt) (file : Path) : TickData :=
  if wasDelivered front file then p.liveFor file
  else (cache.get? file).getD (p.liveFor file)

/-- What a dealing leaves in the cache for its file. -/
def leaves (p : Pass τ) (cache : RetryCache) (front : List Attempt) (a : Attempt) :
    Option TickData :=
  match a.fate with
  | .skipped => cache.get? a.file
  | .failed => some (p.resolved cache front a.file)
  | .uploaded | .rejected => none

/-- The last dealing changes what the others have left. -/
theorem entryAfter_snoc (p : Pass τ) (cache : RetryCache) (attempts : List Attempt) (a : Attempt)
    (file : Path) : p.entryAfter cache (attempts ++ [a]) file =
      p.entryStep file (p.entryAfter cache attempts file) a := by
  simp [entryAfter]

/-- A dealing with another file changes nothing. -/
theorem entryStep_of_ne (h : (a.file == file) = false) (entry : Option TickData) :
    p.entryStep file entry a = entry := by
  simp [entryStep, h]

/-- Dealings with other files leave the entry as it is. -/
theorem entryAfter_append (h : ∀ b ∈ back, (b.file == file) = false) :
    p.entryAfter cache (front ++ back) file = p.entryAfter cache front file := by
  induction back using List.reverseRecOn with
  | nil => rw [List.append_nil]
  | append_singleton back b ih =>
    rw [← List.append_assoc, entryAfter_snoc,
      entryStep_of_ne (h b (List.mem_append_right _ (List.mem_singleton_self b)))]
    exact ih fun c hc => h c (List.mem_append_left _ hc)

/-- The entry of a file gives the tick that it is filed under next. -/
theorem getD_entryAfter (p : Pass τ) (cache : RetryCache) (attempts : List Attempt)
    (file : Path) :
    (p.entryAfter cache attempts file).getD (p.liveFor file) = p.resolved cache attempts file := by
  induction attempts using List.reverseRecOn with
  | nil => rfl
  | append_singleton attempts a ih =>
    rw [entryAfter_snoc]
    unfold resolved at ih ⊢
    rw [wasDelivered_snoc]
    by_cases ha : (a.file == file) = true
    · -- a delivery ends what the cache held, everything else goes on with it
      cases hf : a.fate with
      | skipped => simpa [entryStep, ha, hf, Fate.IsDelivery] using ih
      | failed => simpa [entryStep, ha, hf, Fate.IsDelivery] using ih
      | uploaded => simp [entryStep, ha, hf, Fate.IsDelivery]
      | rejected => simp [entryStep, ha, hf, Fate.IsDelivery]
    · rw [entryStep_of_ne (by simpa using ha), ih]
      simp [ha]

/-- A file that is always skipped keeps its entry. -/
theorem entryAfter_of_skipped
    (h : ∀ b ∈ attempts, (b.file == file) = true → b.fate = .skipped) :
    p.entryAfter cache attempts file = cache.get? file := by
  induction attempts using List.reverseRecOn with
  | nil => rfl
  | append_singleton attempts a ih =>
    rw [entryAfter_snoc, ih fun b hb => h b (List.mem_append_left _ hb)]
    unfold entryStep
    split
    · next ha => rw [h a (List.mem_append_right _ (List.mem_singleton_self a)) ha]
    · rfl

end Pass

/-- A file is skipped exactly if its name holds no user id. -/
theorem Handles.skipped_iff {backend : Backend τ} {answer? : FetchId → Option Answer}
    {pending : PendingTicks} (h : Handles backend answer? pending t s a t' s') :
    a.fate = .skipped ↔ ∃ why, UserId.ofPath a.file = .error why := by
  -- a name is read as a user id or it is not
  have hok : ∀ {file user}, UserId.ofPath file = .ok user →
      ¬ ∃ why, UserId.ofPath file = .error why := by
    rintro file user hu ⟨why, he⟩
    rw [hu] at he
    cases he
  cases h with
  | skipped hu => exact ⟨fun _ => ⟨_, hu⟩, fun _ => rfl⟩
  | unread hu => exact ⟨fun he => Fate.noConfusion he, fun he => absurd he (hok hu)⟩
  | @sent file tick chunks xs fate t' s' hsends hf =>
    obtain ⟨user, _, _, hu, -⟩ := hsends.follows
    exact ⟨fun (he : fate = .skipped) => absurd (he ▸ hf) (fateOf_ne_skipped _ _),
      fun he => absurd he (hok hu)⟩

/-- In the whole of a pass, too, a file is skipped exactly if its name holds no user id. -/
theorem Passes.skipped_iff (h : Passes p.backend p.answer? p.pending t s attempts t' s')
    (ha : a ∈ attempts) : a.fate = .skipped ↔ ∃ why, UserId.ofPath a.file = .error why := by
  induction h with
  | nil => cases ha
  | snoc _ hh ih =>
    rcases List.mem_append.1 ha with ha | ha
    · exact ih ha
    · obtain rfl := List.mem_singleton.1 ha
      exact hh.skipped_iff

/-- What the requests give for a file is what they give for its user. -/
theorem Pass.liveFor_of_ok {user : UserId} (hu : UserId.ofPath file = .ok user) :
    p.liveFor file = p.tickOf user := by
  unfold Pass.liveFor
  rw [hu]

/-- The dealings of a pass leave in the cache what they make of it one after the other. -/
theorem Passes.entry (complete : p.Complete)
    (h : Passes p.backend p.answer? p.pending t s attempts t' s') (file : Path) :
    s'.cache.get? file = p.entryAfter s.cache attempts file := by
  induction h with
  | nil => rfl
  | @snoc attempts a t₁ t₂ s₁ s₂ h ha ih =>
    rw [Pass.entryAfter_snoc, ← ih]
    unfold Pass.entryStep
    -- the equation for one dealing is the one for the cache, entry by entry
    rcases ha.cache complete with ⟨hs, hcache⟩ | ⟨hs, user, hu, -, hcache⟩
    · rw [hcache, hs]
      split <;> rfl
    · rw [hcache file]
      split
      · next he =>
        have hlive : p.liveFor file = p.tickOf user :=
          Pass.liveFor_of_ok (UserId.ofPath_congr he hu)
        rw [hlive, ← Table.get?_congr _ he]
        cases hf : a.fate with
        | skipped => exact absurd hf hs
        | failed => rfl
        | uploaded | rejected => rfl
      · rfl

/-- In a pass every dealing files its recording under the tick that the dealings before resolve. -/
theorem Passes.filed (complete : p.Complete)
    (h : Passes p.backend p.answer? p.pending t s attempts t' s')
    (he : attempts = front ++ a :: back) (hs : a.fate ≠ .skipped) :
    a.FiledUnder (p.resolved s.cache front a.file) := by
  induction h generalizing back with
  | nil => simp at he
  | @snoc attempts b t₁ t₂ s₁ s₂ h hb ih =>
    -- it is the last dealing, or one of those before
    rcases List.eq_nil_or_concat back with rfl | ⟨back', last, rfl⟩
    · obtain ⟨rfl, hba⟩ := List.append_inj' he rfl
      obtain rfl : b = a := List.singleton_inj.1 hba
      rcases hb.cache complete with ⟨hskip, -⟩ | ⟨-, user, hu, hfiled, -⟩
      · exact absurd hskip hs
      · rwa [h.entry complete, ← Pass.liveFor_of_ok hu, Pass.getD_entryAfter] at hfiled
    · rw [List.concat_eq_append, ← List.cons_append, ← List.append_assoc] at he
      exact ih (List.append_inj' he rfl).1

/-- The last dealing with a file decides what the pass leaves for it. -/
theorem Passes.last_entry (complete : p.Complete)
    (h : Passes p.backend p.answer? p.pending t s attempts t' s')
    (he : attempts = front ++ a :: back) (hlast : ∀ b ∈ back, (b.file == a.file) = false) :
    s'.cache.get? a.file = p.leaves s.cache front a := by
  rw [h.entry complete, he, List.append_cons, Pass.entryAfter_append hlast,
    Pass.entryAfter_snoc]
  unfold Pass.entryStep Pass.leaves
  rw [if_pos (Path.beq_refl _)]
  cases hf : a.fate with
  | skipped =>
    -- whoever is skipped once is skipped always
    refine Pass.entryAfter_of_skipped fun b hb hba => ?_
    have hmem : b ∈ attempts := he ▸ List.mem_append_left _ hb
    have hmem' : a ∈ attempts := he ▸ List.mem_append_right _ List.mem_cons_self
    obtain ⟨why, hwhy⟩ := (h.skipped_iff hmem').1 hf
    refine (h.skipped_iff hmem).2 ?_
    cases hu : UserId.ofPath b.file with
    | error why' => exact ⟨why', rfl⟩
    | ok user =>
      rw [UserId.ofPath_congr hba hu] at hwhy
      cases hwhy
  | failed => rw [Pass.getD_entryAfter]
  | uploaded | rejected => rfl

/-! ## The disk -/

/-- A delivery takes the entry of its file away; nothing else changes the disk. -/
theorem Handles.disk (h : p.Undisturbed)
    (hh : Handles p.backend p.answer? p.pending t s a t' s') :
    s'.folders = s.folders ∧
      (¬ a.fate.IsDelivery ∧ s'.disk = s.disk ∨
        a.fate.IsDelivery ∧ ∃ v, s.disk.resolveEntry a.file = .ok v ∧ s.disk.HasEntry v ∧
          s'.disk = s.disk.clear v) := by
  cases hh with
  | skipped => exact ⟨rfl, Or.inl ⟨by simp [Fate.IsDelivery], rfl⟩⟩
  | unread => exact ⟨rfl, Or.inl ⟨by simp [Fate.IsDelivery], rfl⟩⟩
  | @sent file tick chunks xs fate t' s' hsends hf =>
    obtain ⟨hdisk, hfolders⟩ := h.talks hsends.talks
    obtain ⟨bytes, hread, -⟩ := hsends.cuts
    obtain ⟨v, hv, hentry, hremove⟩ := removeFile_of_read hread
    -- what was read is still there to be removed, whatever has become of the cache
    have hdelete : ∀ s₁ : Station, s₁.disk = s.disk →
        (s₁.delete file).folders = s₁.folders ∧ (s₁.delete file).disk = s.disk.clear v := by
      intro s₁ he
      unfold Station.delete
      rw [he, hremove]
      exact ⟨rfl, rfl⟩
    cases fate with
    | skipped => exact absurd hf (fateOf_ne_skipped _ _)
    | failed => exact ⟨hfolders, Or.inl ⟨by simp [Fate.IsDelivery], hdisk⟩⟩
    | uploaded | rejected =>
      obtain ⟨hsame, hgone⟩ := hdelete (s'.forget file) hdisk
      exact ⟨hsame.trans hfolders, Or.inr ⟨by simp [Fate.IsDelivery], v, hv, hentry, hgone⟩⟩

/-- The dealings of a pass take the entries of the delivered files away, and nothing else. -/
theorem Passes.disk (h : p.Undisturbed)
    (hp : Passes p.backend p.answer? p.pending t s attempts t' s') :
    s'.folders = s.folders ∧ ∃ gone, s'.disk = s.disk.without gone ∧
      (∀ v ∈ gone, ∃ a ∈ attempts, a.fate.IsDelivery ∧
        s.disk.resolveEntry a.file = .ok v ∧ s.disk.HasEntry v) ∧
      ∀ a ∈ attempts, a.fate.IsDelivery → ∃ v ∈ gone,
        s.disk.resolveEntry a.file = .ok v ∧ s.disk.HasEntry v := by
  induction hp with
  | nil =>
    exact ⟨rfl, [], (without_nil _).symm, fun v hv => absurd hv List.not_mem_nil,
      fun a ha => absurd ha List.not_mem_nil⟩
  | @snoc attempts a t₁ t₂ s₁ s₂ _ ha ih =>
    obtain ⟨hfolders, gone, hgone, htaken, hdelivered⟩ := ih
    obtain ⟨hsame, ⟨hnot, hdisk⟩ | ⟨hdel, v, hv, hentry, hdisk⟩⟩ := ha.disk h
    · refine ⟨hsame.trans hfolders, gone, hdisk.trans hgone, fun v hv => ?_, fun b hb hbd => ?_⟩
      · obtain ⟨b, hb, hrest⟩ := htaken v hv
        exact ⟨b, List.mem_append_left _ hb, hrest⟩
      · rcases List.mem_append.1 hb with hb | hb
        · exact hdelivered b hb hbd
        · obtain rfl := List.mem_singleton.1 hb
          exact absurd hbd hnot
    · -- the entry has been there, and has been reached, from the start
      have hwithin : Within s₁.disk s.disk := hgone ▸ within_without s.disk gone
      have hv₀ := hwithin.resolveEntry hv hentry.ne_none
      have hentry₀ := hentry.within hwithin
      refine ⟨hsame.trans hfolders, gone ++ [v], by rw [hdisk, hgone, clear_without],
        fun u hu => ?_, fun b hb hbd => ?_⟩
      · rcases List.mem_append.1 hu with hu | hu
        · obtain ⟨b, hb, hrest⟩ := htaken u hu
          exact ⟨b, List.mem_append_left _ hb, hrest⟩
        · obtain rfl := List.mem_singleton.1 hu
          exact ⟨a, List.mem_append_right _ (List.mem_singleton_self a), hdel, hv₀, hentry₀⟩
      · rcases List.mem_append.1 hb with hb | hb
        · obtain ⟨u, hu, hrest⟩ := hdelivered b hb hbd
          exact ⟨u, List.mem_append_left _ hu, hrest⟩
        · obtain rfl := List.mem_singleton.1 hb
          exact ⟨v, List.mem_append_right _ (List.mem_singleton_self v), hv₀, hentry₀⟩

/-- The end of a pass takes empty directories away besides. -/
theorem Passes.finish_disk (h : p.Undisturbed)
    (hp : Passes p.backend p.answer? p.pending t s attempts t' s') (folders : List Path) :
    let after := (Registry.finish s'.disk s'.folders folders).1
    ∃ gone, after = s.disk.without gone ∧
      (∀ v ∈ gone, (∃ a ∈ attempts, a.fate.IsDelivery ∧
          s.disk.resolveEntry a.file = .ok v ∧ s.disk.HasEntry v) ∨
        (∃ q ∈ folders, (s.folders.stateOf? q).isSome = true ∧ s.disk.directoryOf q = .ok v) ∧
          ∀ name, after.at? (v ++ [name]) = none) ∧
      ∀ a ∈ attempts, a.fate.IsDelivery → ∃ v ∈ gone,
        s.disk.resolveEntry a.file = .ok v ∧ s.disk.HasEntry v := by
  intro after
  obtain ⟨hfolders, gone, hgone, htaken, hdelivered⟩ := hp.disk h
  obtain ⟨gone', hgone', htaken'⟩ := finish_takes s'.disk s'.folders folders
  have hwithin : Within s'.disk s.disk := hgone ▸ within_without s.disk gone
  -- what the deliveries have taken, and then what the end takes
  refine ⟨gone ++ gone', by rw [← without_without, ← hgone]; exact hgone', fun v hm => ?_,
    fun a ha hd => ?_⟩
  · rcases List.mem_append.1 hm with hm | hm
    · exact Or.inl (htaken v hm)
    · obtain ⟨⟨q, hq, hreg, hdir⟩, hempty⟩ := htaken' v hm
      exact Or.inr ⟨⟨q, hq, hfolders ▸ hreg, hwithin.directoryOf hdir⟩, hempty⟩
  · obtain ⟨v, hm, hv⟩ := hdelivered a ha hd
    exact ⟨v, List.mem_append_left _ hm, hv⟩

/-- What was delivered is gone, so no two deliveries are of one entry. -/
theorem Passes.once (h : p.Undisturbed)
    (hp : Passes p.backend p.answer? p.pending t s attempts t' s') :
    attempts.Pairwise fun a b => a.fate.IsDelivery → b.fate.IsDelivery →
      ∀ v, s.disk.resolveEntry a.file = .ok v → s.disk.resolveEntry b.file ≠ .ok v := by
  induction hp with
  | nil => exact List.Pairwise.nil
  | @snoc attempts b t₁ t₂ s₁ s₂ hp hb ih =>
    refine List.pairwise_append.2 ⟨ih, List.pairwise_singleton _ _, ?_⟩
    intro a ha b' hb' had hbd v hva hvb
    obtain rfl := List.mem_singleton.1 hb'
    obtain ⟨-, gone, hgone, -, hdelivered⟩ := hp.disk h
    obtain ⟨u, hu, hua, -⟩ := hdelivered a ha had
    obtain ⟨-, ⟨hnot, -⟩ | ⟨-, w, hw, hentry, -⟩⟩ := hb.disk h
    · exact hnot hbd
    -- the entry of the later delivery is there, but that of the earlier one is not
    have hw₀ : s.disk.resolveEntry b'.file = .ok w :=
      (hgone ▸ within_without s.disk gone : Within s₁.disk s.disk).resolveEntry hw hentry.ne_none
    obtain rfl : v = u := Except.ok.inj (hva.symm.trans hua)
    obtain rfl : v = w := Except.ok.inj (hvb.symm.trans hw₀)
    have hnone : s₁.disk.at? v = none := by
      rw [hgone, at?_without, if_pos ⟨hu, hentry.ne_nil⟩]
    exact hentry.ne_none hnone

/-- A skipped file has another name than a delivered one, and so another entry. -/
theorem Passes.skipped_entry_ne
    (hp : Passes p.backend p.answer? p.pending t s attempts t' s') (ha : a ∈ attempts)
    (hs : a.fate = .skipped) (hb : b ∈ attempts) (hd : b.fate.IsDelivery) {d : Disk} {v : Place}
    (hv : d.HasEntry v) (hva : d.resolveEntry a.file = .ok v)
    (hvb : d.resolveEntry b.file = .ok v) : False := by
  obtain ⟨why, hwhy⟩ := (hp.skipped_iff ha).1 hs
  cases hu : UserId.ofPath b.file with
  | error why' =>
    have hskip := (hp.skipped_iff hb).2 ⟨why', hu⟩
    rw [hskip] at hd
    rcases hd with hd | hd <;> cases hd
  | ok user =>
    have hname : b.file.fileName? = a.file.fileName? :=
      (fileName?_of_entry hvb hv).trans (fileName?_of_entry hva hv).symm
    rw [UserId.ofPath_of_fileName hname hu] at hwhy
    cases hwhy

/-! ## All of it -/

/-- All that a pass does, told from its dealings with its files. -/
structure Pass.Effect (p : Pass τ) (cache : RetryCache) (attempts : List Attempt)
    (after : Course τ) : Prop where
  ended : after.worker.stage = .ended
  /-- Every time that a file is given it is dealt with once, in order. -/
  files : p.files = attempts.map (·.file)
  /-- All that is said to the backend is said in these dealings, one after the other. -/
  exchanges : after.exchanges = attempts.flatMap (·.exchanges)
  /-- Every dealing is reported once, among those that came out alike. -/
  report : ∀ fate, after.worker.report.of fate = faring fate attempts
  /-- The files without a user id are skipped, and no others. -/
  skipped : ∀ a ∈ attempts, a.fate = .skipped ↔ ∃ why, UserId.ofPath a.file = .error why
  /-- The tick that is resolved is the one that the recording is filed under. -/
  filed : ∀ front a back, attempts = front ++ a :: back → a.fate ≠ .skipped →
    a.FiledUnder (p.resolved cache front a.file)
  /-- The last dealing with a file decides what is in the cache for it. -/
  last : ∀ front a back, attempts = front ++ a :: back →
    (∀ b ∈ back, (b.file == a.file) = false) →
    after.station.cache.get? a.file = p.leaves cache front a
  /-- For all other files the cache is as it was. -/
  elsewhere : ∀ file, (∀ a ∈ attempts, (a.file == file) = false) →
    after.station.cache.get? file = cache.get? file
  /-- Whatever is gone from the disk was a delivered file, or an empty directory that a registered
  folder of the report leads to. -/
  disk : ∀ v, after.station.disk.at? v = p.station.disk.at? v ∨
    after.station.disk.at? v = none ∧
      ((∃ a ∈ attempts, a.fate.IsDelivery ∧ p.station.disk.resolveEntry a.file = .ok v ∧
          p.station.disk.HasEntry v) ∨
        (∃ q ∈ after.worker.report.folders, (p.station.folders.stateOf? q).isSome = true ∧
          p.station.disk.directoryOf q = .ok v) ∧
        ∀ name, after.station.disk.at? (v ++ [name]) = none)
  /-- Every delivered file is gone. -/
  delivered : ∀ a ∈ attempts, a.fate.IsDelivery → ∃ v,
    p.station.disk.resolveEntry a.file = .ok v ∧ p.station.disk.HasEntry v ∧
      after.station.disk.at? v = none
  /-- No two deliveries are of one entry. -/
  once : attempts.Pairwise fun a b => a.fate.IsDelivery → b.fate.IsDelivery →
    ∀ v, p.station.disk.resolveEntry a.file = .ok v → p.station.disk.resolveEntry b.file ≠ .ok v
  /-- A file stays that no delivered file leads to. -/
  kept : ∀ v, p.station.disk.HasEntry v →
    (∀ a ∈ attempts, a.fate.IsDelivery → p.station.disk.resolveEntry a.file ≠ .ok v) →
    after.station.disk.at? v = p.station.disk.at? v
  /-- And so does every skipped file. -/
  untouched : ∀ a ∈ attempts, a.fate = .skipped → ∀ v,
    p.station.disk.resolveEntry a.file = .ok v → p.station.disk.HasEntry v →
    after.station.disk.at? v = p.station.disk.at? v

/-- A pass that is not disturbed deals with its files one after the other, and leaves behind what
comes of these dealings and nothing else. -/
theorem pass_effect (h : p.Undisturbed) (cache : RetryCache) :
    ∃ attempts, p.Effect cache attempts (p.course cache) := by
  have hends := h.complete.ends cache
  obtain ⟨attempts, t, s, hp, hfiles, hexchanges, hreport, hfinish⟩ :=
    (stands_start p.state (p.found cache) p.files p.folders).finishes Stage.noConfusion hends
  have hfinish : (p.course cache).station = s.finish (p.course cache).worker.report.folders :=
    hfinish
  have hcache : ∀ file, (p.course cache).station.cache.get? file = s.cache.get? file := by
    rw [hfinish]
    exact fun file => rfl
  have hdisk : (p.course cache).station.disk =
      (Registry.finish s.disk s.folders (p.course cache).worker.report.folders).1 := by
    rw [hfinish]
    rfl
  obtain ⟨gone, hleft, htaken, hdelivered⟩ :=
    hp.finish_disk h (p.course cache).worker.report.folders
  have honce := hp.once h
  rw [← hdisk] at hleft htaken
  have hleft : (p.course cache).station.disk = p.station.disk.without gone := hleft
  have hkept : ∀ v, p.station.disk.HasEntry v →
      (∀ a ∈ attempts, a.fate.IsDelivery → p.station.disk.resolveEntry a.file ≠ .ok v) →
      (p.course cache).station.disk.at? v = p.station.disk.at? v := by
    intro v hv hno
    rw [hleft, at?_without, if_neg]
    rintro ⟨hm, -⟩
    rcases htaken v hm with ⟨a, ha, hd, hr, -⟩ | ⟨⟨q, -, -, hq⟩, -⟩
    · exact hno a ha hd hr
    · -- what the end of the pass takes away is a directory
      obtain ⟨node, hn, hdir⟩ := hv
      have hq : p.station.disk.directoryOf q = .ok v := hq
      rw [(directoryOf_eq_ok_iff.1 hq).2] at hn
      exact hdir (Option.some.inj hn).symm
  refine ⟨attempts, hends, hfiles, hexchanges, hreport, fun a ha => hp.skipped_iff ha,
    fun front a back he hs => hp.filed h.complete he hs, fun front a back he hlast => ?_,
    fun file hno => ?_, fun v => ?_, fun a ha hd => ?_, honce, hkept,
    fun a ha hs v hv hentry => ?_⟩
  · rw [hcache, hp.last_entry h.complete he hlast]
    rfl
  · have hnone : p.entryAfter cache ([] ++ attempts) file = p.entryAfter cache [] file :=
      Pass.entryAfter_append hno
    rw [hcache, hp.entry h.complete]
    exact hnone
  · rw [hleft, at?_without, ← hleft]
    split
    · next hm => exact Or.inr ⟨rfl, htaken v hm.1⟩
    · exact Or.inl rfl
  · obtain ⟨v, hm, hv, hentry⟩ := hdelivered a ha hd
    refine ⟨v, hv, hentry, ?_⟩
    rw [hleft, at?_without, if_pos ⟨hm, hentry.ne_nil⟩]
  · exact hkept v hentry fun b hb hd hvb => hp.skipped_entry_ne ha hs hb hd hentry hv hvb

/-- A pass that is given one recording twice, and a file of nobody's in between. -/
def sampleRound : Pass Unit :=
  { samplePass "\x7b\"tickId\":5,\"elapsed\":6\x7d" (.body "\x7b\"fileId\":\"x\"\x7d") with
    files := [⟨["rec", "voice0", "7-a.wav"]⟩, ⟨["rec", "voice0", "note.wav"]⟩,
      ⟨["rec", "voice0", "7-a.wav"]⟩] }

/-- Nobody disturbs the sample pass, so all that it does is told from its three dealings. -/
theorem pass_effect_sample : sampleRound.Undisturbed ∧
    ∃ attempts, sampleRound.Effect .empty attempts (sampleRound.course .empty) := by
  have h : sampleRound.Undisturbed :=
    ⟨fun _ _ _ => rfl, fun t s _ => ⟨t, s, _, rfl, Answer.noConfusion, rfl, rfl, rfl⟩⟩
  exact ⟨h, pass_effect h .empty⟩

end PushToTalk.Upload
