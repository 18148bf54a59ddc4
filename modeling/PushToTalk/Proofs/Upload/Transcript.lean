import PushToTalk.Proofs.Upload.Step

/-
  What is said about one file.

  The requests that deliver a file follow a script: create it with the number of its chunks, send
  every chunk, have it put into the chat.  The script is written out here from the addresses that
  the backend expects, so that it can be compared with the requests that the program makes.  A
  worker stops at the first exchange that fails, so what it has said is always a first part of the
  script, and all of it was answered except perhaps the end.

  1. **The script** — its requests by their place in it (`script_succ`, `script_last`).

  2. **What was said so far** — `Opened` is the state after some chunks were taken: the exchanges
     are known one by one, and the id in the requests is the one that the backend gave.
     `Transcript` is what remains of that in the end, whichever way it ended.

  What the backend does with the requests is its own affair.

  Main statements: `Opened.snoc` and `Opened.transcript`.
-/

namespace PushToTalk.Upload

/-! ## The script -/

/-- The query of the last request: the tick if both of its values are known, or nothing. -/
def tickQuery (tick : TickData) : List (String × String) :=
  match tick.tickId, tick.elapsed with
  | some i, some e =>
    [("tickId", Text.Numeral.ofInt i.toInt), ("elapsed", Text.Numeral.ofInt e.toInt)]
  | _, _ => []

/-- The requests that bring the chunks to the backend. -/
def opening (chunks : List Bytes) (fileId : String) : List Request :=
  ⟨.put, ["createFile", Text.Numeral.ofNat chunks.length], [], .text, none⟩ ::
    chunks.mapIdx fun index chunk =>
      ⟨.post, ["fileChunk", fileId, Text.Numeral.ofNat index], [], .raw, some chunk⟩

/-- The request that puts a file into the chat. -/
def closing (name topic fileId : String) (tick : TickData) : Request :=
  ⟨.post, ["chat", "sendTranscribedAudioFile", "from", name, topic, fileId, "wav"],
    tickQuery tick, .text, none⟩

/-- All requests that deliver a file, in order. -/
def script (chunks : List Bytes) (name topic fileId : String) (tick : TickData) : List Request :=
  opening chunks fileId ++ [closing name topic fileId tick]

/-- The request for the chat is the one that the program makes, with each of the two values known
or not. -/
theorem closing_eq (name topic fileId : String) (tick : TickData) :
    closing name topic fileId tick = finalizeRequest name topic fileId tick := by
  obtain ⟨tickId, elapsed⟩ := tick
  cases tickId with
  | none => rfl
  | some i => cases elapsed <;> rfl

/-- There is a creation and a request for each chunk. -/
theorem length_opening (chunks : List Bytes) (fileId : String) :
    (opening chunks fileId).length = chunks.length + 1 := by simp [opening]

variable {chunks later : List Bytes} {chunk : Bytes} {name topic fileId : String}
  {tick : TickData} {index : Nat} {file : Path} {xs : List Exchange} {answer : Answer}

/-- As long as a chunk is left, not all of them were taken. -/
theorem lt_length_of_drop (h : chunks.drop index = chunk :: later) : index < chunks.length :=
  List.length_lt_of_drop_ne_nil (by rw [h]; exact List.cons_ne_nil _ _)

/-- The chunks are sent in their order. -/
theorem script_succ (name topic fileId : String) (tick : TickData)
    (h : chunks.drop index = chunk :: later) :
    (script chunks name topic fileId tick)[index + 1]? = some (chunkRequest fileId index chunk) := by
  have hget : chunks[index]? = some chunk := by
    rw [← Nat.add_zero index, ← List.getElem?_drop, h]
    rfl
  have hlt : index + 1 < (opening chunks fileId).length := by
    rw [length_opening]
    exact Nat.succ_lt_succ (lt_length_of_drop h)
  rw [script, List.getElem?_append_left hlt, opening, List.getElem?_cons_succ,
    List.getElem?_mapIdx, hget]
  rfl

/-- The request for the chat comes behind all chunks. -/
theorem script_last : (script chunks name topic fileId tick)[chunks.length + 1]? =
    some (finalizeRequest name topic fileId tick) := by
  rw [script, ← length_opening chunks fileId, List.getElem?_concat_length, closing_eq]

/-- As long as not all is through, a first part of the script is one of its opening. -/
theorem take_script (name topic fileId : String) (tick : TickData) (h : index ≤ chunks.length) :
    (script chunks name topic fileId tick).take (index + 1) =
      (opening chunks fileId).take (index + 1) := by
  rw [script, List.take_append_of_le_length (by rw [length_opening]; omega)]

/-! ## What was said so far -/

/-- The exchanges about a file of which `count` chunks were taken. -/
structure Opened (file : Path) (chunks : List Bytes) (fileId : String) (count : Nat)
    (xs : List Exchange) : Prop where
  enough : count ≤ chunks.length
  files : ∀ x ∈ xs, x.file = file
  requests : xs.map (·.request) = (opening chunks fileId).take (count + 1)
  answered : ∀ x ∈ xs, ∃ text, x.answer = .body text
  /-- The id is the one that the backend gave. -/
  named : ∃ first rest text, xs = first :: rest ∧ first.answer = .body text ∧
    parseCreated text = .ok fileId

/-- The exchanges about a file as far as they went: a first part of the script, answered except
perhaps at the end. -/
structure Transcript (file : Path) (chunks : List Bytes) (name topic fileId : String)
    (tick : TickData) (xs : List Exchange) : Prop where
  files : ∀ x ∈ xs, x.file = file
  requests : xs.map (·.request) <+: script chunks name topic fileId tick
  answered : ∀ x ∈ xs.dropLast, ∃ text, x.answer = .body text
  /-- The id in the script is the one that the backend gave, once it is used. -/
  named : 2 ≤ xs.length → ∃ first rest text, xs = first :: rest ∧ first.answer = .body text ∧
    parseCreated text = .ok fileId

/-- There was one exchange for the creation and one for each chunk that was taken. -/
theorem Opened.length (h : Opened file chunks fileId index xs) : xs.length = index + 1 := by
  have hl := congrArg List.length h.requests
  have hle := h.enough
  rw [List.length_map, List.length_take, length_opening] at hl
  omega

/-- What was said so far goes by the script. -/
theorem Opened.transcript (h : Opened file chunks fileId index xs) :
    Transcript file chunks name topic fileId tick xs where
  files := h.files
  requests := by
    rw [h.requests, ← take_script name topic fileId tick h.enough]
    exact List.take_prefix _ _
  answered x hx := h.answered x (List.dropLast_subset _ hx)
  named _ := h.named

/-- Whatever comes of the next request in the script, it goes by the script. -/
theorem Opened.next (h : Opened file chunks fileId index xs) {request : Request}
    (hr : (script chunks name topic fileId tick)[index + 1]? = some request) :
    Transcript file chunks name topic fileId tick (xs ++ [⟨file, request, answer⟩]) where
  files x hx := by
    rcases List.mem_append.1 hx with hold | hnew
    · exact h.files x hold
    · obtain rfl := List.mem_singleton.1 hnew
      rfl
  requests := by
    have ht : List.map Exchange.request (xs ++ [⟨file, request, answer⟩]) =
        (script chunks name topic fileId tick).take (index + 1 + 1) := by
      rw [List.take_add_one (i := index + 1), hr, take_script _ _ _ _ h.enough,
        List.map_append, h.requests]
      rfl
    rw [ht]
    exact List.take_prefix _ _
  answered x hx := by
    rw [List.dropLast_concat] at hx
    exact h.answered x hx
  named _ := by
    obtain ⟨first, rest, text, rfl, ha, hp⟩ := h.named
    exact ⟨first, rest ++ [_], text, rfl, ha, hp⟩

/-- The first request goes by the script, whatever comes of it. -/
theorem transcript_create :
    Transcript file chunks name topic fileId tick
      [⟨file, createRequest chunks.length, answer⟩] where
  files x hx := by
    obtain rfl := List.mem_singleton.1 hx
    rfl
  requests := ⟨_, rfl⟩
  answered x hx := absurd hx List.not_mem_nil
  named hl := by simp at hl

/-- After the creation no chunk has been taken, and the id is known. -/
theorem opened_create {text : String} (hp : parseCreated text = .ok fileId) :
    Opened file chunks fileId 0 [⟨file, createRequest chunks.length, .body text⟩] where
  enough := Nat.zero_le _
  files x hx := by
    obtain rfl := List.mem_singleton.1 hx
    rfl
  requests := rfl
  answered x hx := by
    obtain rfl := List.mem_singleton.1 hx
    exact ⟨text, rfl⟩
  named := ⟨_, [], text, rfl, rfl, hp⟩

/-- One more chunk is taken. -/
theorem Opened.snoc (h : Opened file chunks fileId index xs)
    (hd : chunks.drop index = chunk :: later) (text : String) :
    Opened file chunks fileId (index + 1)
      (xs ++ [⟨file, chunkRequest fileId index chunk, .body text⟩]) where
  enough := lt_length_of_drop hd
  files x hx := by
    rcases List.mem_append.1 hx with hold | hnew
    · exact h.files x hold
    · obtain rfl := List.mem_singleton.1 hnew
      rfl
  requests := by
    -- the chunk is the next request of the script
    have hget : (opening chunks fileId)[index + 1]? = some (chunkRequest fileId index chunk) := by
      have hs := script_succ "" "" fileId .unknown hd
      have hlt : index + 1 < (opening chunks fileId).length := by
        rw [length_opening]
        exact Nat.succ_lt_succ (lt_length_of_drop hd)
      rwa [script, List.getElem?_append_left hlt] at hs
    rw [List.map_append, h.requests, List.take_add_one (i := index + 1), hget]
    rfl
  answered x hx := by
    rcases List.mem_append.1 hx with hold | hnew
    · exact h.answered x hold
    · obtain rfl := List.mem_singleton.1 hnew
      exact ⟨text, rfl⟩
  named := by
    obtain ⟨first, rest, first_text, rfl, ha, hp⟩ := h.named
    exact ⟨first, rest ++ [_], first_text, rfl, ha, hp⟩

end PushToTalk.Upload
