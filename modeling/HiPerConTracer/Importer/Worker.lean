import HiPerConTracer.Importer.Reader

/-!
# The import worker (`worker.cc`)

`importFiles` tries to import a list of files in one transaction: the parsing loop with its
`StopRequested` break, `finishParsing`, commit or rollback, the disposal of the files, and the
four exception handlers.  `Worker.step` is one turn of the loops of `Worker::run`: fast mode for
the list that was fetched, then the files one by one if that failed.

What the worker does not decide itself is asked from an `Environment` at a moment of the clock:
when a stop request arrives, sizes and contents of the files, the outcome of each database step
and of each move.  The clock goes on by one with every file looked at and with every disposal.
-/

namespace HiPerConTracer.Importer

/-- The exception classes that `importFiles` tells apart (`results-exception.h`). -/
inductive ResultsException where
  /-- `ResultsReaderDataErrorException` -/
  | readerDataError
  /-- `ResultsDatabaseDataErrorException`, a subclass of `ResultsDatabaseException` -/
  | databaseDataError
  /-- `ResultsDatabaseException` -/
  | database
  /-- any other `std::exception` -/
  | other
deriving DecidableEq, Repr

def ResultsException.isDatabaseException : ResultsException → Bool
  | .databaseDataError | .database => true
  | .readerDataError | .other => false

inductive ImportModeType where
  | keepImportedFiles
  | moveImportedFiles
  | deleteImportedFiles
deriving DecidableEq, Repr

/-- Where an input file is. -/
inductive Location where
  | importDirectory
  | goodDirectory
  | badDirectory
  | deleted
deriving DecidableEq, Repr

/-- The observable actions of a worker. -/
inductive Action (File : Type) where
  /-- `importFiles` is called. -/
  | importFiles
  /-- The file has size 0. -/
  | emptyFile (file : File)
  /-- The stream of the file could not be opened; the file is passed over. -/
  | notOpened (file : File)
  /-- All lines of the file were read and made so many rows of the statement. -/
  | parsed (file : File) (rows : Nat)
  /-- The stream failed behind the lines of so many rows, which ends the loop over the lines as
  the end of the file does. -/
  | partlyParsed (file : File) (rows : Nat)
  | committed
  | rolledBack
  /-- `finishedFile`; no file stands for the empty path. -/
  | finished (file : Option File) (success : Bool)
  /-- One of the two assertions of `finishedFile` does not hold. -/
  | assertionFailed
deriving DecidableEq, Repr

structure Environment (File Row : Type) where
  /-- The moment from which on `StopRequested` is true. -/
  stopAt : Option Nat
  startTransaction : Nat → Option ResultsException
  beginParsing : Nat → Option ResultsException
  /-- `none`: `file_size` reports an error. -/
  fileSize : Nat → File → Option Nat
  openStream : Nat → File → Bool
  /-- The rows put into the statement, and the exception that ended the parsing. -/
  parseContents : Nat → File → List Row × Option ResultsException
  /-- Whether the stream fails in the file, such as in truncated compressed data.  `std::getline`
  then returns false, as at the end of the file, and nothing is thrown. -/
  streamFails : Nat → File → Bool
  executeUpdate : Nat → List Row → Option ResultsException
  commit : Nat → Option ResultsException
  rollback : Nat → Option ResultsException
  reconnect : Nat → Option ResultsException
  /-- Whether deleting the file works. -/
  remove : Nat → File → Bool
  /-- Whether the file is below the import path and can be moved. -/
  rename : Nat → File → Bool
  /-- The calls of `addFile` by the importer thread since the last fetch, with their times. -/
  arrivals : Nat → List (Int × File)

def Environment.stopRequested {File Row : Type} (env : Environment File Row) (t : Nat) : Bool :=
  match env.stopAt with
  | none => false
  | some stop => stop ≤ t

structure Configuration where
  workerID : Nat
  maxTransactionSize : Nat
  importMode : ImportModeType
  quitWhenIdle : Bool

structure State (File Entry Row : Type) where
  clock : Nat
  reader : Reader Entry
  /-- The rows of the reader's statement, and the counter kept beside it. -/
  statement : List Row
  rows : Nat
  /-- The rows executed in the open transaction. -/
  transaction : Option (List Row)
  database : List Row
  location : File → Location
  /-- The actions so far, the latest first. -/
  trace : List (Action File)

section
variable {File Entry Row : Type}

def State.log (s : State File Entry Row) (a : Action File) : State File Entry Row :=
  { s with trace := a :: s.trace }

def State.tick (s : State File Entry Row) : State File Entry Row := { s with clock := s.clock + 1 }

def State.setLocation [DecidableEq File] (s : State File Entry Row) (file : File) (l : Location) :
    State File Entry Row :=
  { s with location := fun f => if f = file then l else s.location f }

/-- What a call of `importFiles` ends with. -/
inductive Return where
  | returned (imported : Bool)
  /-- The exception leaves `importFiles`. -/
  | thrown (exception : ResultsException)
deriving DecidableEq, Repr

variable (env : Environment File Row)

/-! ## Reading the files -/

/-- What has happened with a file whose parsing returns. -/
def parsedAction (t : Nat) (dataFile : File) (rows : Nat) : Action File :=
  if env.streamFails t dataFile then .partlyParsed dataFile rows else .parsed dataFile rows

/-- `processFile`: an empty file and a file that cannot be opened are both passed over. -/
def processFile (s : State File Entry Row) (dataFile : File) :
    State File Entry Row × Option ResultsException :=
  if env.fileSize s.clock dataFile = some 0 then (s.log (.emptyFile dataFile), none)
  else if env.openStream s.clock dataFile then
    let (rs, exception) := env.parseContents s.clock dataFile
    let s' := { s with statement := s.statement ++ rs, rows := s.rows + rs.length }
    match exception with
    | none => (s'.log (parsedAction env s.clock dataFile rs.length), none)
    | some e => (s', some e)
  else (s.log (.notOpened dataFile), none)

/-- The parsing loop of `importFiles`; `dataFile` is the file set last. -/
def parseFiles (s : State File Entry Row) (dataFile : Option File) :
    List File → State File Entry Row × Option File × Option ResultsException
  | [] => (s, dataFile, none)
  | f :: fs =>
    if env.stopRequested s.clock then (s, some f, none)
    else
      match processFile env s f with
      | (s', some e) => (s'.tick, some f, some e)
      | (s', none) => parseFiles s'.tick (some f) fs

/-! ## The transaction -/

/-- `finishParsing`: true if there was a statement to execute. -/
def finishParsing (s : State File Entry Row) : State File Entry Row × Except ResultsException Bool :=
  if s.rows > 0 then
    match env.executeUpdate s.clock s.statement with
    | none => ({ s with statement := [],
                        transaction := s.transaction.map (· ++ s.statement) }, .ok true)
    | some e => (s, .error e)
  else (s, .ok false)

def commit (s : State File Entry Row) : State File Entry Row × Option ResultsException :=
  match env.commit s.clock with
  | none => ({ s with database := s.database ++ s.transaction.getD [],
                      transaction := none }.log .committed, none)
  | some e => (s, some e)

def rollback (s : State File Entry Row) : State File Entry Row × Option ResultsException :=
  match env.rollback s.clock with
  | none => ({ s with transaction := none }.log .rolledBack, none)
  | some e => (s, some e)

/-- `startTransaction` and `beginParsing`, which clears the statement. -/
def begin (s : State File Entry Row) : State File Entry Row × Option ResultsException :=
  match env.startTransaction s.clock with
  | some e => (s, some e)
  | none =>
    match env.beginParsing s.clock with
    | some e => ({ s with transaction := some [] }, some e)
    | none => ({ s with transaction := some [], statement := [], rows := 0 }, none)

/-! ## Disposing of the files -/

variable [DecidableEq File] [LinearOrder Entry] (ops : FileEntry File Entry) (cfg : Configuration)

def deleteImportedFile (s : State File Entry Row) (dataFile : File) : State File Entry Row :=
  if env.remove s.clock dataFile then s.setLocation dataFile .deleted else s

def moveImportedFile (s : State File Entry Row) (dataFile : File) (isGood : Bool) :
    State File Entry Row :=
  if env.rename s.clock dataFile then
    s.setLocation dataFile (if isGood then .goodDirectory else .badDirectory)
  else s

/-- The file is moved, deleted or kept. -/
def dispose (s : State File Entry Row) (dataFile : File) (success : Bool) : State File Entry Row :=
  if success then
    match cfg.importMode with
    | .deleteImportedFiles => deleteImportedFile env s dataFile
    | .moveImportedFiles => moveImportedFile env s dataFile true
    | .keepImportedFiles => s
  else moveImportedFile env s dataFile false

/-- `finishedFile`.  The empty path does not match the file names of the reader, and the reader
has no such file. -/
def finishedFile (s : State File Entry Row) (dataFile : Option File) (success : Bool) :
    State File Entry Row :=
  let s := s.log (.finished dataFile success)
  match dataFile with
  | none => (s.log .assertionFailed).tick
  | some f =>
    let s := dispose env cfg s f success
    match removeFile ops s.reader f with
    | (r, true) => { s with reader := r }.tick
    | (r, false) => ({ s with reader := r }.log .assertionFailed).tick

/-- The disposal loop at the end of the import. -/
def finishFiles (s : State File Entry Row) : List File → State File Entry Row
  | [] => s
  | f :: fs => finishFiles (finishedFile env ops cfg s (some f) true) fs

/-! ## Importing a list of files -/

/-- The body of the `try` block, up to the disposal of the files: the file set last, and the
exception thrown. -/
def importAttempt (s : State File Entry Row) (dataFileList : List File) :
    State File Entry Row × Option File × Option ResultsException :=
  match begin env s with
  | (s, some e) => (s, none, some e)
  | (s, none) =>
    match parseFiles env s.tick none dataFileList with
    | (s, dataFile, some e) => (s, dataFile, some e)
    | (s, dataFile, none) =>
      match finishParsing env s with
      | (s, .error e) => (s, dataFile, some e)
      | (s, .ok true) => ((commit env s).1, dataFile, (commit env s).2)
      | (s, .ok false) => ((rollback env s).1, dataFile, (rollback env s).2)

/-- The end of `importFiles` when the connection has to be set up again. -/
def reconnect (s : State File Entry Row) : State File Entry Row × Return :=
  match env.reconnect s.clock with
  | none => ({ s with transaction := none }.tick, .returned false)
  | some e => (s, .thrown e)

/-- The handlers that roll back: in slow mode the file set last is bad. -/
def rollbackHandler (s : State File Entry Row) (bad : Bool) (dataFile : Option File) :
    State File Entry Row × Return :=
  match rollback env s with
  | (s, none) =>
    (if bad then finishedFile env ops cfg s dataFile false else s, .returned false)
  | (s, some e) => if e.isDatabaseException then reconnect env s else (s, .thrown e)

/-- `importFiles`. -/
def importFiles (s : State File Entry Row) (dataFileList : List File) :
    State File Entry Row × Return :=
  let fastMode := dataFileList.length > 1
  match importAttempt env (s.log .importFiles) dataFileList with
  | (s, _, none) => (finishFiles env ops cfg s dataFileList, .returned true)
  | (s, dataFile, some .readerDataError) =>
    rollbackHandler env ops cfg s (¬ fastMode ∧ dataFile.isSome) dataFile
  | (s, dataFile, some .databaseDataError) => rollbackHandler env ops cfg s (¬ fastMode) dataFile
  | (s, _, some .database) => reconnect env s
  | (s, dataFile, some .other) => rollbackHandler env ops cfg s (¬ fastMode) dataFile

/-! ## The worker loop -/

/-- Where the thread is in `Worker::run`. -/
inductive ProgramCounter (File : Type) where
  /-- At the head of the outer loop. -/
  | outer
  /-- At the head of the inner loop, with the list fetched last. -/
  | inner (dataFileList : List File)
  /-- In the one-by-one loop, with the files left. -/
  | slow (dataFileList : List File)
  /-- In `Notification.wait`. -/
  | waiting
  | finished
deriving DecidableEq, Repr

structure Worker (File Entry Row : Type) where
  pc : ProgramCounter File
  state : State File Entry Row

/-- The files announced since the last fetch, then `fetchFiles`. -/
def fetch (s : State File Entry Row) : State File Entry Row × List File :=
  let r := (env.arrivals s.clock).foldl (fun r a => (addFile ops r a.1 a.2).1) s.reader
  ({ s with reader := r }.tick, fetchFiles ops r cfg.workerID cfg.maxTransactionSize)

def fetchNext (s : State File Entry Row) : Worker File Entry Row :=
  let (s, files) := fetch env ops cfg s
  ⟨.inner files, s⟩

/-- One turn of the loops of `Worker::run`.  An exception that leaves `importFiles` ends the
thread. -/
def Worker.step (w : Worker File Entry Row) : Worker File Entry Row :=
  let s := w.state
  match w.pc with
  | .outer =>
    if env.stopRequested s.clock then ⟨.finished, s⟩ else fetchNext env ops cfg s
  | .inner files =>
    if files ≠ [] ∧ env.stopRequested s.clock = false then
      match importFiles env ops cfg s.tick files with
      | (s, .returned true) => fetchNext env ops cfg s
      | (s, .returned false) =>
        if files.length > 1 then ⟨.slow files, s⟩ else fetchNext env ops cfg s
      | (s, .thrown _) => ⟨.finished, s⟩
    else if files = [] ∧ cfg.quitWhenIdle then ⟨.finished, s⟩
    else if env.stopRequested s.clock then ⟨.outer, s⟩
    else ⟨.waiting, s.tick⟩
  | .slow [] => fetchNext env ops cfg s
  | .slow (f :: fs) =>
    if env.stopRequested s.clock then fetchNext env ops cfg s
    else
      match importFiles env ops cfg s.tick [f] with
      | (s, .returned _) => ⟨.slow fs, s⟩
      | (s, .thrown _) => ⟨.finished, s⟩
  | .waiting => ⟨.outer, s.tick⟩
  | .finished => w

/-! ## The loops for one list -/

/-- The one-by-one loop over a list.  An exception ends the thread. -/
def slowMode (s : State File Entry Row) : List File → State File Entry Row
  | [] => s
  | f :: fs =>
    if env.stopRequested s.clock then s
    else
      match importFiles env ops cfg s.tick [f] with
      | (s, .returned _) => slowMode s fs
      | (s, .thrown _) => s

/-- What happens with a fetched list: fast mode, then slow mode if that failed. -/
def handleList (s : State File Entry Row) (files : List File) : State File Entry Row :=
  match importFiles env ops cfg s.tick files with
  | (s, .returned true) => s
  | (s, .returned false) => if files.length > 1 then slowMode env ops cfg s files else s
  | (s, .thrown _) => s

/-- A worker that has just been started. -/
def Worker.start (reader : Reader Entry) (database : List Row) : Worker File Entry Row :=
  ⟨.outer, { clock := 0, reader, statement := [], rows := 0, transaction := none, database,
             location := fun _ => .importDirectory, trace := [] }⟩

end

end HiPerConTracer.Importer
