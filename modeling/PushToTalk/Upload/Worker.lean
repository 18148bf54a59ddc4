import PushToTalk.Chunk
import PushToTalk.Fetch
import PushToTalk.Station
import PushToTalk.Text.Blank

/-
  Upload workers: one pass over the files of a flush.

  A worker takes its files one after the other.  For each it finds out the user, the name and the
  tick, cuts the file into chunks, and tells the backend: create a file of so many chunks, here
  is each chunk, put it into the chat.  The answer to the last request is blank if all is well
  and a complaint otherwise; in both cases the file is delivered and deleted.  Any failure before
  that leaves the file where it is and its tick in the retry cache.

  The worker is a machine that moves in small steps, so that other parts of the relay can move
  between any two of them: `Worker.advance` makes a step of the worker's own, `Worker.receive` is
  the end of the exchange whose request `Stage.request?` shows.
-/

namespace PushToTalk.Upload

/-! ## State -/

/-- The outcome of a pass, each list in the order in which the files were handled. -/
structure Report where
  /-- Delivered and deleted. -/
  uploaded : List Path
  /-- Left on the disk, with their ticks in the retry cache. -/
  failed : List Path
  /-- Without a user id in their names; left on the disk. -/
  skipped : List Path
  /-- Refused by the backend at the very end; deleted. -/
  rejected : List Path
  /-- The folders that the pass is done with. -/
  folders : List Path
  deriving Repr

/-- The report before the first file. -/
def Report.empty : Report := ⟨[], [], [], [], []⟩

/-- What a worker knows about a user's speech. -/
inductive Correlation
  /-- The tick has been requested. -/
  | pending (request : PendingTick)
  /-- The tick is known, as far as it ever will be. -/
  | resolved (name : String) (tick : TickData)
  deriving DecidableEq, Repr

/-- The name that a correlation carries. -/
def Correlation.name : Correlation → String
  | .pending request => request.name
  | .resolved name _ => name

/-- A file on its way to the backend. -/
structure Delivery where
  file : Path
  /-- The name it is filed under. -/
  name : String
  /-- The tick it is filed under. -/
  tick : TickData
  deriving Repr

/-- The verdict of the backend on a delivered file. -/
inductive Verdict
  | accepted
  | rejected
  deriving DecidableEq, Repr

/-- Where a worker stands. -/
inductive Stage
  /-- Between two files. -/
  | idle
  /-- Waiting for the tick of a user. -/
  | awaiting (file : Path) (user : UserId) (request : PendingTick)
  /-- About to read the file. -/
  | reading (d : Delivery)
  /-- Asking the backend for a new file of as many chunks. -/
  | creating (d : Delivery) (chunks : List Bytes)
  /-- Sending chunk number `index`; `later` follow. -/
  | sending (d : Delivery) (fileId : String) (index : Nat) (chunk : Bytes) (later : List Bytes)
  /-- About to look up the topic. -/
  | closing (d : Delivery) (fileId : String)
  /-- Having the file put into the chat. -/
  | finalizing (d : Delivery) (fileId topic : String)
  /-- About to delete a delivered file. -/
  | clearing (file : Path) (verdict : Verdict)
  /-- Done with the pass. -/
  | ended
  /-- Died in an exchange. -/
  | dead
  deriving Repr

/-- A worker in the middle of its pass. -/
structure Worker where
  /-- The files that were not begun. -/
  todo : List Path
  /-- The folders to report back. -/
  folders : List Path
  /-- What is known about the users' speech. -/
  correlations : Table UserId Correlation
  stage : Stage
  /-- The outcome so far; its folders are filled in at the end. -/
  report : Report
  deriving Repr

/-- A worker before its first step. -/
def Worker.start (files folders : List Path) (pending : PendingTicks) : Worker where
  todo := files
  folders := folders
  correlations := pending.map fun _ request => .pending request
  stage := .idle
  report := .empty

/-! ## Requests -/

/-- Asks for a new file of `count` chunks. -/
def createRequest (count : Nat) : Request :=
  .make .put ["createFile", Text.Numeral.ofNat count]

/-- Sends chunk number `index`. -/
def chunkRequest (fileId : String) (index : Nat) (chunk : Bytes) : Request :=
  (Request.make .post ["fileChunk", fileId, Text.Numeral.ofNat index]).withBytes chunk

/-- The number of a tick as the query gives it. -/
def tickText (n : Int64) : String := Text.Numeral.ofInt n.toInt

/-- Has a file put into the chat, at its tick if both values of it are known. -/
def finalizeRequest (name topic fileId : String) (tick : TickData) : Request :=
  let request := Request.make .post
    ["chat", "sendTranscribedAudioFile", "from", name, topic, fileId, "wav"]
  match tick.complete with
  | some (i, e) => (request.withQuery "tickId" (tickText i)).withQuery "elapsed" (tickText e)
  | none => request

/-- The exchange that a worker is in. -/
def Stage.request? : Stage → Option Request
  | .creating _ chunks => some (createRequest chunks.length)
  | .sending _ fileId index chunk _ => some (chunkRequest fileId index chunk)
  | .finalizing d fileId topic => some (finalizeRequest d.name topic fileId d.tick)
  | _ => none

/-- The file that a worker is busy with. -/
def Stage.file? : Stage → Option Path
  | .awaiting file _ _ => some file
  | .reading d | .creating d _ | .sending d _ _ _ _ | .closing d _ | .finalizing d _ _ =>
    some d.file
  | .clearing file _ => some file
  | .idle | .ended | .dead => none

/-! ## Answers -/

/-- The fields of the answer to a creation. -/
def createdShape : Json.Shape := ⟨"CreatedFile", [⟨"fileId", .text, false⟩]⟩

/-- Reads the id of a created file. -/
def parseCreated (body : String) : Except Misread String :=
  match createdShape.parse body with
  | .ok [some (.text fileId)] => .ok fileId
  | .ok _ => .error (.creation body ⟨.missing "fileId", 1, 0, []⟩)
  | .error why => .error (.creation body why)

/-- The stage before the chunks that are left. -/
def sendFrom (d : Delivery) (fileId : String) (index : Nat) : List Bytes → Stage
  | [] => .closing d fileId
  | chunk :: later => .sending d fileId index chunk later

namespace Worker

/-- Adds the folder of a file that was handled, if it is not among the folders yet. -/
def addFolder (w : Worker) (file : Path) : Worker :=
  match file.parent? with
  | some folder =>
    if w.folders.any (· == folder) then w else { w with folders := w.folders ++ [folder] }
  | none => w

/-- A file is handled; on to the next. -/
def handled (w : Worker) (file : Path) (report : Report) : Worker :=
  { w with stage := .idle, report }.addFolder file

/-- A file failed: it stays, and so does its tick. -/
def fail (s : Station) (w : Worker) (d : Delivery) : Station × Worker :=
  (s.remember d.file d.tick,
    w.handled d.file { w.report with failed := w.report.failed ++ [d.file] })

/-- The backend gave its verdict on a file: its tick is forgotten, and it will be deleted. -/
def deliver (s : Station) (w : Worker) (d : Delivery) (verdict : Verdict) : Station × Worker :=
  (s.forget d.file, { w with stage := .clearing d.file verdict })

/-- The report after a delivered file was deleted. -/
def cleared (w : Worker) (file : Path) : Verdict → Report
  | .accepted => { w.report with uploaded := w.report.uploaded ++ [file] }
  | .rejected => { w.report with rejected := w.report.rejected ++ [file] }

/-! ## Steps -/

/-- Begins a file: whose it is, what their name is, and which tick it belongs to. A remembered
tick comes first, because a live request would belong to whatever the user said last. -/
def begin (s : Station) (w : Worker) (file : Path) : Worker :=
  match UserId.ofPath file with
  | .error _ => w.handled file { w.report with skipped := w.report.skipped ++ [file] }
  | .ok user =>
    let known := w.correlations.get? user
    let name := (known.map Correlation.name).getD (s.nameOf user)
    match s.cache.get? file with
    | some tick => { w with stage := .reading ⟨file, name, tick⟩ }
    | none =>
      match known with
      | some (.resolved _ tick) => { w with stage := .reading ⟨file, name, tick⟩ }
      | some (.pending request) => { w with stage := .awaiting file user request }
      | none => { w with stage := .reading ⟨file, name, .unknown⟩ }

/-- The awaited tick has come; it holds for all further files of the user. -/
def resolve (w : Worker) (file : Path) (user : UserId) (request : PendingTick)
    (answer : Answer) : Worker :=
  let tick := TickData.ofAnswer answer
  { w with
    correlations := w.correlations.put user (.resolved request.name tick)
    stage := .reading ⟨file, request.name, tick⟩ }

/-- A step of the worker's own, given the fetches that are over; nothing while it waits for a
tick or for the backend, and nothing any more at the end. -/
def advance (answer? : FetchId → Option Answer) (s : Station) (w : Worker) :
    Option (Station × Worker) :=
  match w.stage with
  | .idle =>
    match w.todo with
    | file :: later => some (s, begin s { w with todo := later } file)
    | [] =>
      some (s.finish w.folders,
        { w with stage := .ended, report := { w.report with folders := w.folders } })
  | .awaiting file user request =>
    match answer? request.fetch with
    | some answer => some (s, w.resolve file user request answer)
    | none => none
  | .reading d =>
    match Chunk.read s.disk d.file with
    | .ok chunks => some (s, { w with stage := .creating d chunks })
    | .error _ => some (fail s w d)
  | .closing d fileId => some (s, { w with stage := .finalizing d fileId s.settings.topic })
  | .clearing file verdict =>
    some (s.delete file, w.handled file (w.cleared file verdict))
  | .creating .. | .sending .. | .finalizing .. | .ended | .dead => none

/-- The end of the exchange that the worker is in. -/
def receive (s : Station) (w : Worker) (answer : Answer) : Station × Worker :=
  match w.stage, answer with
  | .creating d chunks, .body text =>
    match parseCreated text with
    | .ok fileId => (s, { w with stage := sendFrom d fileId 0 chunks })
    | .error _ => fail s w d
  | .sending d fileId index _ later, .body _ =>
    (s, { w with stage := sendFrom d fileId (index + 1) later })
  | .finalizing d _ _, .body text =>
    deliver s w d (if Text.allBlank text then .accepted else .rejected)
  | .creating d _, .fault _ | .sending d _ _ _ _, .fault _ | .finalizing d _ _, .fault _ =>
    fail s w d
  | .creating .., .death | .sending .., .death | .finalizing .., .death =>
    (s, { w with stage := .dead })
  | _, _ => (s, w)

end Worker

end PushToTalk.Upload
