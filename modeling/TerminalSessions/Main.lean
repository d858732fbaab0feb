import Std.Time.DateTime.Timestamp
import TerminalSessions.Session

/-! The console as a program: it reads lines from the standard input and uses the files of the system. -/

namespace TerminalSessions.Program

def systemError? : IO.Error → Option (UInt32 × String)
  | .alreadyExists _ code words | .otherError code words | .resourceBusy code words
  | .resourceVanished code words | .unsupportedOperation code words | .hardwareFault code words
  | .unsatisfiedConstraints code words | .illegalOperation code words | .protocolError code words
  | .timeExpired code words | .interrupted _ code words | .noFileOrDirectory _ code words
  | .invalidArgument _ code words | .permissionDenied _ code words
  | .resourceExhausted _ code words | .inappropriateType _ code words
  | .noSuchThing _ code words => some (code, words)
  | .unexpectedEof | .userError _ => none

def errorNumber (code : UInt32) : Nat :=
  min code.toNat (0x100000000 - code.toNat)

def fileFault (error : IO.Error) : FileFault :=
  match systemError? error with
  | none => .other error.toString
  | some (code, words) =>
    match errorNumber code with
    | 2 => .notFound
    | 16 => .busy
    | 17 => .exists
    | 20 => .notDirectory
    | 21 => .isDirectory
    | 36 => .nameTooLong
    | 39 => .notEmpty
    | number => .other (words.capitalize ++ " (os error " ++ Text.decimal number ++ ")")

def attempt {α : Type} (action : IO α) : IO (Except FileFault α) := do
  try return .ok (← action)
  catch error => return .error (fileFault error)

def attemptAt {α : Type} (path : String) (action : String → IO α) : IO (Except FileFault α) := do
  if '\x00' ∈ path.toList then return .error .zeroInName
  attempt (action path)

def fileStatus (path : String) : IO (Except FileFault FileStatus) := do
  match ← attemptAt path (IO.FS.readBinFile ·) with
  | .ok content => return .ok (.file content.size)
  | .error .isDirectory => return .ok .directory
  | .error fault => return .error fault

instance : FileAccess IO where
  status := fileStatus
  read path := attemptAt path (IO.FS.readBinFile ·)
  write path content := attemptAt path (IO.FS.writeBinFile · content)
  append path content := attemptAt path (IO.FS.withFile · .append (·.write content))
  rename source target := attemptAt (source ++ target) fun _ => IO.FS.rename source target
  makeDirectory path := attemptAt path (IO.FS.createDir ·)

def now : IO Instant := do
  return ⟨(← Std.Time.Timestamp.now).toNanosecondsSinceUnixEpoch.val.toNat⟩

def entryTimes : IO EntryTimes := do
  let time ← now
  return ⟨time, time⟩

def processEnvironment : IO Environment := do
  match ← attempt (IO.FS.readBinFile "/proc/self/environ") with
  | .ok bytes => return Environment.ofBlock bytes.toList
  | .error _ => return []

def handleSupply : IO (Nat → String) := do
  return Backend.numberedHandle (← IO.getRandomBytes 12).toList

partial def readLine (input : IO.FS.Stream) (line : ByteArray) : IO ByteArray := do
  let bytes ← input.read 1
  if bytes.size = 0 then return line
  else if bytes.toList = [0x0A] then return line ++ bytes
  else readLine input (line ++ bytes)

partial def serve (input output errors : IO.FS.Stream) (console : Console) : IO UInt32 := do
  let line ← readLine input ByteArray.empty
  if line.size = 0 then
    match ← Session.finish console with
    | none => return 0
    | some report => fail errors report
  else
    let (state, text) ← Session.runBytes console (← entryTimes) line.toList
    if let some text := text then
      output.putStr (text ++ "\n")
      output.flush
    match state with
    | .running console => serve input output errors console
    | .left => return 0
    | .broken report => fail errors report
where
  fail (errors : IO.FS.Stream) (report : Report) : IO UInt32 := do
    errors.putStr (report.text ++ "\n")
    return 1

def run : IO UInt32 := do
  let errors ← IO.getStderr
  match ← Session.start (← processEnvironment) (← handleSupply) with
  | .error report => serve.fail errors report
  | .ok console => serve (← IO.getStdin) (← IO.getStdout) errors console

end TerminalSessions.Program

def main : IO UInt32 :=
  TerminalSessions.Program.run
