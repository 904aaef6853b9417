/-
The command line: `send` with the options of a probe mail, and `watch`.

The commands are those of `Command.probe` and `Command.watch`; here the environment, the file `.env`,
the clock and chance are read for them, and what they answer is printed. There is no network: every
call to a mail server is refused, and databases last as long as the command.
-/
import DeliveryWatch.Command.Probe
import DeliveryWatch.Command.Watch
import DeliveryWatch.Log.Record

namespace DeliveryWatch.Main

open Command

/-- The text of a file, if it can be read. -/
def fileText? (path : String) : IO (Option String) := do
  try return some (← IO.FS.readFile path)
  catch _ => return none

/-- The assignments in the text of an environment, each ended by a zero character. -/
def assignments (environment : String) : List (String × String) :=
  (environment.toList.splitOn (Char.ofNat 0)).filterMap fun entry =>
    (Text.cutFirst? ['='] entry).map fun (name, value) => (String.ofList name, String.ofList value)

/-- The settings of the environment and the file `.env`. -/
def configuration : IO Configuration := do
  let environment := (← fileText? "/proc/self/environ").getD ""
  return Settings.load (assignments environment) (← fileText? ".env")

/-- The whole number behind a word in a text. -/
def numberBehind (word text : String) : Nat :=
  match Text.cutFirst? word.toList text.toList with
  | some (_, rest) => Text.decimalValue ((rest.dropWhile Text.isBlank).takeWhile Char.isDigit)
  | none => 0

/-- The time of day: how long the machine has been running since it was started. -/
def now : IO Time := do
  let started := numberBehind "btime" ((← fileText? "/proc/stat").getD "")
  let running := numberBehind "" ((← fileText? "/proc/uptime").getD "")
  return (Time.afterEpoch? (started + running)).getD default

/-- A number of 128 bits by chance. -/
def chance : IO Nat := do
  return (← IO.getRandomBytes 16).toList.foldl (fun n b => 256 * n + b.toNat) 0

/-- A server that cannot be reached. -/
def unreachable : Smtp.Server := fun _ => some (.system (.int 111) (.str "Connection refused") none)

/-- End with the account of a failure. -/
def fail (f : Failure) : IO UInt32 := do
  IO.eprintln f.message
  return 1

/-- Send a probe mail. -/
def send (arguments : List String) : IO UInt32 := do
  let mark : Ping.Postmark :=
    ⟨{ ← now with offset := none }.mailText, "<" ++ QueueId.ofNumber (← chance) ++ "@mailprobe.local>"⟩
  let (outcome, _) := probe mark (← configuration) unreachable arguments { tokens := ← chance }
  for note in outcome.notes do IO.eprintln note
  match outcome.printed with
  | .nothing => pure ()
  | .usage => IO.println ("usage: " ++ Probe.commandName ++ " [-h] --from FROM --to TO [options]")
  | .text s => IO.println s
  match outcome.failure with
  | some f => fail f
  | none => return UInt32.ofNat outcome.exit

/-- Print the lines of a log. -/
def printLog (o : Log.Output) (time : Time) (log : List Log.Entry) : IO Unit :=
  for e in log do
    let r : Log.Record := { level := e.level, logger := "watch", text := e.text }
    for line in o.lines time.ledgerText e.envelopeId r do IO.println line

/-- Watch for mail. -/
def watchMail : IO UInt32 := do
  match ← configuration with
  | .error problems => fail (.settings problems)
  | .ok s =>
    match Log.Output.ofName? s.logLevel s.logJson with
    | none =>
      IO.eprintln ("Unknown level of the log: " ++ s.logLevel)
      return 1
    | some o =>
      let time ← now
      match watch time (.ok s) {} with
      | (.error f, _) => fail f
      | (.ok watched, _) =>
        printLog o time watched.log
        return UInt32.ofNat watched.exit

end DeliveryWatch.Main

/-- Run the command that the first argument names. -/
def main (arguments : List String) : IO UInt32 :=
  match arguments with
  | "send" :: rest => DeliveryWatch.Main.send rest
  | ["watch"] => DeliveryWatch.Main.watchMail
  | _ => do
    IO.eprintln "usage: deliverywatch send OPTIONS | deliverywatch watch"
    return 2
