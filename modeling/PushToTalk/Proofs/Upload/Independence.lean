import Mathlib
import PushToTalk.Proofs.Upload.Effect
import PushToTalk.Proofs.Upload.Forecast

/-
  The files of a pass do not matter to one another.

  A pass at many files does to each what a pass at that file alone does: the same is said about it,
  it comes out the same, and the same is in the retry cache for it in the end.  In another order the
  same is said and reported in that order.  So it does not matter how recordings are grouped into
  jobs, or in which order a directory was listed.

  Both follow from the forecast: it tells every pass file by file, and nothing in it is about the
  other files.

  1. **The requests about a file** go by the script, also where the dealing ends early
     (`requests_say`).

  2. **The retry cache** — what is left for a file is told by its one dealing (`entry_of_plainly`),
     since no other file of the pass has its path.

  3. **One file and many** — `Independent` compares a pass at many files with the passes at each of
     them alone, and these with the plain rule.

  Only on the disk do files come into each other's way.  Two paths may lead to one file, and once it
  is delivered by the one it is gone for the other (`aliases_in_the_way`); so the files have to be
  apart on the disk, and not only as paths.

  Main statement: `files_independent`.
-/

namespace PushToTalk.Upload

open Disk

variable {τ : Type} {p : Pass τ} {reply : Request → Answer} {cache : RetryCache}
  {file : Path} {files : List Path} {d : Delivery} {attempts : List Attempt}

/-! ## The requests about a file -/

/-- An exchange is the first of a dealing, and what comes behind it hangs on the answer. -/
theorem requests_ask (reply : Request → Answer) (file : Path) (request : Request)
    (next : String → Attempt) :
    ∃ later, (ask reply file request next).exchanges.map (·.request) = request :: later ∧
      (later = [] ∨ ∃ text, later = (next text).exchanges.map (·.request)) := by
  unfold ask
  split
  · next text _ => exact ⟨_, rfl, Or.inr ⟨text, rfl⟩⟩
  · exact ⟨[], rfl, Or.inl rfl⟩
  · exact ⟨[], rfl, Or.inl rfl⟩

/-- From any chunk on the requests go by the script. -/
theorem requests_sayFrom (reply : Request → Answer) (topic : String) (d : Delivery)
    (fileId : String) (index : Nat) (chunks : List Bytes) :
    (sayFrom reply topic d fileId index chunks).exchanges.map (·.request) <+:
      chunks.mapIdx (fun i chunk => chunkRequest fileId (index + i) chunk) ++
        [closing d.name topic fileId d.tick] := by
  induction chunks generalizing index with
  | nil =>
    obtain ⟨later, hrequests, hlater⟩ := requests_ask reply d.file
      (finalizeRequest d.name topic fileId d.tick)
      fun text => ⟨d.file, [], if Text.allBlank text then .uploaded else .rejected⟩
    have hnone : later = [] := by
      rcases hlater with rfl | ⟨text, rfl⟩ <;> rfl
    show (sayLast reply topic d fileId).exchanges.map (·.request) <+: _
    unfold sayLast
    rw [hrequests, hnone, ← closing_eq]
    exact List.prefix_rfl
  | cons chunk chunks ih =>
    obtain ⟨later, hrequests, hlater⟩ := requests_ask reply d.file
      (chunkRequest fileId index chunk)
      fun _ => sayFrom reply topic d fileId (index + 1) chunks
    -- the later chunks keep their numbers when they are counted from the next one on
    have hshift : (fun i chunk => chunkRequest fileId (index + (i + 1)) chunk) =
        fun i chunk => chunkRequest fileId (index + 1 + i) chunk := by
      funext i chunk
      rw [Nat.add_right_comm, Nat.add_assoc]
    show (ask reply d.file _ _).exchanges.map (·.request) <+: _
    rw [hrequests, List.mapIdx_cons, List.cons_append, hshift]
    refine (List.prefix_cons_inj _).2 ?_
    rcases hlater with rfl | ⟨text, rfl⟩
    · exact List.nil_prefix
    · exact ih (index + 1)

/-- All requests about a file go by the script. -/
theorem requests_say (reply : Request → Answer) (s : Station) (d : Delivery) :
    ∃ chunks fileId, (say reply s d).exchanges.map (·.request) <+:
      script chunks d.name s.settings.topic fileId d.tick := by
  unfold say
  split
  · next bytes _ =>
    obtain ⟨later, hrequests, hlater⟩ := requests_ask reply d.file
      (createRequest (Chunk.ofFile bytes).length)
      (sayChunks reply s.settings.topic d (Chunk.ofFile bytes))
    -- the script, with its three parts spelled out
    have hscript : ∀ fileId, script (Chunk.ofFile bytes) d.name s.settings.topic fileId d.tick =
        createRequest (Chunk.ofFile bytes).length ::
          ((Chunk.ofFile bytes).mapIdx (fun i chunk => chunkRequest fileId (0 + i) chunk) ++
            [closing d.name s.settings.topic fileId d.tick]) := by
      intro fileId
      simp only [Nat.zero_add]
      rfl
    refine ⟨Chunk.ofFile bytes, ?_⟩
    unfold sayAll
    rw [hrequests]
    rcases hlater with rfl | ⟨text, rfl⟩
    · refine ⟨"", ?_⟩
      rw [hscript]
      exact (List.prefix_cons_inj _).2 List.nil_prefix
    · unfold sayChunks
      cases hp : parseCreated text with
      | ok fileId =>
        refine ⟨fileId, ?_⟩
        rw [hscript]
        exact (List.prefix_cons_inj _).2 (requests_sayFrom _ _ _ _ _ _)
      | error why =>
        refine ⟨"", ?_⟩
        rw [hscript]
        exact (List.prefix_cons_inj _).2 List.nil_prefix
  · exact ⟨[], "", List.nil_prefix⟩

/-! ## The retry cache -/

namespace Pass

/-- A backend that leaves the station alone does not disturb the pass. -/
theorem Steady.undisturbed (h : p.Steady reply) : p.Undisturbed where
  ticks := h.ticks
  answers t s request := by
    obtain ⟨t', ht⟩ := h.answers t s request
    exact ⟨t', s, reply request, ht, h.alive request, rfl, rfl, rfl⟩

/-- What a file fares like as it is dealt with first is left in the cache for it. -/
theorem leaves_of_first {front : List Attempt} {a b : Attempt} (hfile : a.file = b.file)
    (hfate : a.fate = b.fate) (hfront : ∀ c ∈ front, (c.file == a.file) = false) :
    p.leaves cache front a = p.leaves cache [] b := by
  have hnot : wasDelivered front a.file = false := by
    unfold wasDelivered
    refine List.any_eq_false.2 fun c hc => ?_
    rw [hfront c hc]
    simp
  unfold leaves resolved
  rw [hnot, hfate, hfile]
  rfl

/-- The plain rule tells what is in the cache in the end. -/
theorem entry_of_plainly (steady : p.Steady reply) (apart : p.Apart) (cache : RetryCache)
    (hf : file ∈ p.files) :
    (p.course cache).station.cache.get? file =
      p.leaves cache [] (p.plainly reply (p.found cache) file) := by
  obtain ⟨attempts, heff⟩ := pass_effect steady.undisturbed cache
  obtain ⟨-, -, hreport⟩ := foretold steady apart cache
  rw [heff.files] at hf
  obtain ⟨a, ha, rfl⟩ := List.mem_map.1 hf
  obtain ⟨front, back, he⟩ := List.append_of_mem ha
  -- no other dealing is with this file
  have hdistinct : (front.map (·.file) ++ a.file :: back.map (·.file)).Pairwise
      fun f g => (f == g) = false := by
    have hfiles : p.files = front.map (·.file) ++ a.file :: back.map (·.file) := by
      rw [heff.files, he, List.map_append, List.map_cons]
    rw [← hfiles]
    exact apart.imp fun h => h.1
  obtain ⟨-, hback, hfront⟩ := List.pairwise_append.1 hdistinct
  have hlast : ∀ b ∈ back, (b.file == a.file) = false := by
    intro b hb
    rw [Path.beq_comm]
    exact List.rel_of_pairwise_cons hback (List.mem_map_of_mem hb)
  have hfirst : ∀ b ∈ front, (b.file == a.file) = false := fun b hb =>
    hfront _ (List.mem_map_of_mem hb) _ List.mem_cons_self
  -- the report says of it what the plain rule says
  have hfate : a.fate = (p.plainly reply (p.found cache) a.file).fate := by
    have hmem : a.file ∈ faring a.fate attempts :=
      List.mem_map.2 ⟨a, List.mem_filter.2 ⟨ha, by simp⟩, rfl⟩
    rw [← heff.report, hreport] at hmem
    exact (of_decide_eq_true (List.mem_filter.1 hmem).2).symm
  rw [heff.last front a back he hlast]
  exact leaves_of_first (p.file_plainly _ _ _).symm hfate hfirst

/-! ## One file and many -/

/-- A pass at other files, with everything else as it is. -/
def withFiles (p : Pass τ) (files : List Path) : Pass τ := { p with files }

/-- What it means that the files of a pass, given in some order, do not matter to one another: the
whole course is made up of the courses at single files, and each of these is the plain rule's. -/
structure Independent (p : Pass τ) (reply : Request → Answer) (cache : RetryCache)
    (files : List Path) : Prop where
  ended : ((p.withFiles files).course cache).worker.stage = .ended
  /-- The same exchanges are made file by file. -/
  exchanges : ((p.withFiles files).course cache).exchanges =
    files.flatMap fun f => ((p.withFiles [f]).course cache).exchanges
  /-- Every file comes out the same. -/
  report : ∀ fate, ((p.withFiles files).course cache).worker.report.of fate =
    files.flatMap fun f => ((p.withFiles [f]).course cache).worker.report.of fate
  /-- For every file the same is in the cache in the end. -/
  remembered : ∀ f ∈ files, ((p.withFiles files).course cache).station.cache.get? f =
    ((p.withFiles [f]).course cache).station.cache.get? f
  /-- Name and tick of a file are those of the plain rule. -/
  filed : ∀ f ∈ files, ∀ user, UserId.ofPath f = .ok user → ∃ chunks fileId,
    ((p.withFiles [f]).course cache).exchanges.map (·.request) <+:
      script chunks (filedUnder p.pending p.station user) p.station.settings.topic fileId
        ((cache.get? f).getD (p.tickOf user))
  /-- All that is said about a file, and its fate, are as the plain rule foretells. -/
  plain : ∀ f ∈ files,
    ((p.withFiles [f]).course cache).exchanges = (p.plainly reply (p.found cache) f).exchanges ∧
    ∀ fate, ((p.withFiles [f]).course cache).worker.report.of fate =
      if (p.plainly reply (p.found cache) f).fate = fate then [f] else []

/-- What is asked of the backend does not hang on the files. -/
theorem Steady.withFiles (h : p.Steady reply) (files : List Path) :
    (p.withFiles files).Steady reply :=
  ⟨h.ticks, h.alive, h.answers⟩

/-- A single file is apart from all others. -/
theorem apart_single (p : Pass τ) (file : Path) : (p.withFiles [file]).Apart :=
  List.pairwise_singleton _ _

/-- What a pass at one file does is what the plain rule foretells. -/
theorem alone_eq (steady : p.Steady reply) (cache : RetryCache) (file : Path) :
    ((p.withFiles [file]).course cache).exchanges =
      (p.plainly reply (p.found cache) file).exchanges ∧
    ∀ fate, ((p.withFiles [file]).course cache).worker.report.of fate =
      if (p.plainly reply (p.found cache) file).fate = fate then [file] else [] := by
  obtain ⟨-, hexchanges, hreport⟩ :=
    foretold (steady.withFiles [file]) (p.apart_single file) cache
  refine ⟨?_, fun fate => ?_⟩
  · rw [hexchanges]
    exact List.append_nil _
  · rw [hreport fate]
    show List.filter (fun f => (p.plainly reply (p.found cache) f).fate = fate) [file] = _
    by_cases hf : (p.plainly reply (p.found cache) file).fate = fate <;> simp [hf]

/-- The requests of a pass at one file are those of the plain rule. -/
theorem alone_filed (steady : p.Steady reply) (cache : RetryCache) {user : UserId}
    (hu : UserId.ofPath file = .ok user) : ∃ chunks fileId,
    ((p.withFiles [file]).course cache).exchanges.map (·.request) <+:
      script chunks (filedUnder p.pending p.station user) p.station.settings.topic fileId
        ((cache.get? file).getD (p.tickOf user)) := by
  rw [(alone_eq steady cache file).1]
  unfold plainly
  rw [hu]
  exact requests_say reply (p.found cache) _

/-- What is picked out of a list is picked out one by one. -/
theorem filter_eq_flatMap (q : Path → Prop) [DecidablePred q] (files : List Path) :
    files.filter q = files.flatMap fun f => if q f then [f] else [] := by
  induction files with
  | nil => rfl
  | cons f files ih =>
    rw [List.filter_cons, List.flatMap_cons, ih]
    by_cases hf : q f <;> simp [hf]

end Pass

/-- The files of a pass do not matter to one another, in whatever order they are given: the answers
of the backend hang on the requests alone, and no two of the files are the same. -/
theorem files_independent (steady : p.Steady reply) (apart : p.Apart) (cache : RetryCache)
    (perm : files.Perm p.files) : p.Independent reply cache files := by
  have hsteady := steady.withFiles files
  -- to be apart does not hang on the order
  have hapart : (p.withFiles files).Apart := by
    refine List.Pairwise.perm apart perm.symm fun {f g} h => ⟨?_, fun hs => h.2 hs.symm⟩
    rw [Path.beq_comm]
    exact h.1
  obtain ⟨hends, hexchanges, hreport⟩ := Pass.foretold hsteady hapart cache
  constructor
  · exact hends
  · rw [hexchanges]
    refine List.flatMap_congr fun f _ => ?_
    exact (Pass.alone_eq steady cache f).1.symm
  · intro fate
    rw [hreport, Pass.filter_eq_flatMap]
    refine List.flatMap_congr fun f _ => ?_
    exact ((Pass.alone_eq steady cache f).2 fate).symm
  · intro f hf
    have hwhole := Pass.entry_of_plainly hsteady hapart cache hf
    have halone := Pass.entry_of_plainly (steady.withFiles [f]) (p.apart_single f) cache
      (List.mem_singleton_self f)
    exact hwhole.trans halone.symm
  · exact fun f _ user hu => Pass.alone_filed steady cache hu
  · exact fun f _ => Pass.alone_eq steady cache f

/-! ## Samples -/

/-- A disk that holds two recordings of one user, the first of them empty. -/
def sampleVoices : Disk :=
  ⟨⟨[(["voice0"], .directory), (["voice0", "1-a.wav"], .file []),
    (["voice0", "1-b.wav"], .file [8, 9])]⟩⟩

/-- A backend that names every file alike and takes everything. -/
def sampleReply (request : Request) : Answer :=
  if request.segments.head? = some "chat" then .body "" else .body "\x7b\"fileId\":\"x\"\x7d"

/-- A pass at files on that disk. -/
def sampleBatch (files : List Path) : Pass Unit where
  files := files
  folders := [⟨["voice0"]⟩]
  pending := Table.empty.put 1 ⟨"Ann", 0⟩
  answer? _ := some (.body "\x7b\"tickId\":5,\"elapsed\":6\x7d")
  backend t s request := some (t, s, sampleReply request)
  state := ()
  station := { Station.start .standard with disk := sampleVoices }

/-- In the sample the answers hang on the requests alone. -/
theorem sampleBatch_steady (files : List Path) : (sampleBatch files).Steady sampleReply where
  ticks _ _ _ := rfl
  alive request := by
    unfold sampleReply
    split <;> exact Answer.noConfusion
  answers _ _ _ := ⟨(), rfl⟩

/-- The two recordings of the user. -/
def sampleFiles : List Path := [⟨["voice0", "1-a.wav"]⟩, ⟨["voice0", "1-b.wav"]⟩]

/-- The two recordings lie at two places. -/
theorem sampleFiles_apart : (sampleBatch sampleFiles).Apart := by
  refine List.pairwise_pair.2 ⟨by decide, ?_⟩
  rintro ⟨u, bytes, hp, hq, -⟩
  have hp' : sampleVoices.resolve ⟨["voice0", "1-a.wav"]⟩ = .ok ["voice0", "1-a.wav"] := by cbv
  have hq' : sampleVoices.resolve ⟨["voice0", "1-b.wav"]⟩ = .ok ["voice0", "1-b.wav"] := by cbv
  have h := Except.ok.inj (hp'.symm.trans (hp.trans (hq.symm.trans hq')))
  exact absurd h (by decide)

/-- Both recordings of the user are dealt with as if the other one were not there. -/
theorem files_independent_sample :
    (sampleBatch sampleFiles).Steady sampleReply ∧ (sampleBatch sampleFiles).Apart ∧
      sampleFiles.reverse.Perm sampleFiles ∧
      (sampleBatch sampleFiles).Independent sampleReply .empty sampleFiles.reverse :=
  ⟨sampleBatch_steady _, sampleFiles_apart, List.reverse_perm _,
    files_independent (sampleBatch_steady _) sampleFiles_apart .empty (List.reverse_perm _)⟩

/-- What is empty is uploaded with nothing but a creation and an end. -/
theorem sampleBatch_takes (files : List Path) (hu : UserId.ofPath file = .ok 1)
    (hread : sampleVoices.read file = .ok []) :
    ((sampleBatch files).plainly sampleReply ((sampleBatch files).found .empty) file).fate =
      .uploaded := by
  have hempty : Chunk.ofFile [] = [] := by
    unfold Chunk.ofFile
    rw [show Chunk.count ([] : Bytes).length = 0 from (Chunk.chunkCount_eq_zero_iff 0).2 rfl]
    rfl
  have hcreate : sampleReply (createRequest 0) = .body "\x7b\"fileId\":\"x\"\x7d" := rfl
  have hnamed : parseCreated "\x7b\"fileId\":\"x\"\x7d" = .ok "x" := by cbv
  have hlast : ∀ name topic fileId tick,
      sampleReply (finalizeRequest name topic fileId tick) = .body "" := by
    intro name topic fileId tick
    rw [← closing_eq]
    rfl
  unfold Pass.plainly
  rw [hu]
  show (say sampleReply ((sampleBatch files).found .empty) ⟨file, _, _⟩).fate = _
  rw [say_of_read hread, hempty, sayAll_named hcreate hnamed]
  show (sayLast sampleReply _ ⟨file, _, _⟩ "x").fate = _
  unfold sayLast
  rw [ask_body (hlast _ _ _ _)]
  rfl

/-- Two paths to one recording. -/
def sampleAliases : List Path :=
  [⟨["voice0", "1-a.wav"]⟩, ⟨["voice0", "..", "voice0", "1-a.wav"]⟩]

/-- Two paths to one file are in each other's way: each alone brings it to the backend, both
together do not. -/
theorem aliases_in_the_way :
    (sampleBatch sampleAliases).Steady sampleReply ∧
    sampleAliases.Pairwise (fun f g => (f == g) = false) ∧
    (∀ f ∈ sampleAliases,
      (((sampleBatch sampleAliases).withFiles [f]).course .empty).worker.report.of .uploaded =
        [f]) ∧
    ((sampleBatch sampleAliases).course .empty).worker.report.of .uploaded ≠ sampleAliases := by
  have hsteady := sampleBatch_steady sampleAliases
  refine ⟨hsteady, by decide, ?_, ?_⟩
  · intro f hf
    have hfate : ((sampleBatch sampleAliases).plainly sampleReply
        ((sampleBatch sampleAliases).found .empty) f).fate = .uploaded := by
      rcases List.mem_pair.1 hf with rfl | rfl
      · exact sampleBatch_takes _ (by cbv) (by cbv)
      · exact sampleBatch_takes _ (by cbv) (by cbv)
    have halone := (Pass.alone_eq hsteady .empty f).2 .uploaded
    rwa [if_pos hfate] at halone
  · intro hboth
    obtain ⟨attempts, heff⟩ := pass_effect hsteady.undisturbed .empty
    have hfiles : sampleAliases = attempts.map (·.file) := heff.files
    rw [heff.report, hfiles] at hboth
    -- both would be delivered, and from one entry
    have hall : ∀ a ∈ attempts, a.fate = .uploaded := by
      have hlength := congrArg List.length hboth
      unfold faring at hlength
      rw [List.length_map, List.length_map] at hlength
      intro a ha
      exact of_decide_eq_true (List.filter_eq_self.1
        (List.filter_sublist.eq_of_length hlength) a ha)
    obtain ⟨a, b, rfl⟩ : ∃ a b, attempts = [a, b] := by
      refine List.length_eq_two.1 ?_
      rw [← List.length_map, ← hfiles]
      rfl
    obtain ⟨ha, htail⟩ := List.cons.inj hfiles
    obtain ⟨hb, -⟩ := List.cons.inj htail
    have hva : sampleVoices.resolveEntry a.file = .ok ["voice0", "1-a.wav"] := by
      have hentry : sampleVoices.resolveEntry ⟨["voice0", "1-a.wav"]⟩ =
        .ok ["voice0", "1-a.wav"] := by cbv
      rwa [ha] at hentry
    have hvb : sampleVoices.resolveEntry b.file = .ok ["voice0", "1-a.wav"] := by
      have hentry : sampleVoices.resolveEntry ⟨["voice0", "..", "voice0", "1-a.wav"]⟩ =
        .ok ["voice0", "1-a.wav"] := by cbv
      rwa [hb] at hentry
    have honce := List.rel_of_pairwise_cons heff.once (List.mem_singleton_self b)
    exact honce (Or.inl (hall a (by simp))) (Or.inl (hall b (by simp))) _ hva hvb

end PushToTalk.Upload
