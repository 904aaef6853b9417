/-
The arguments of the command that sends a probe mail.

* `choices` — its options;
* `Order.ofArguments` — what the arguments ask for: the usage of the command, or a probe mail with the
  defaults for what is not said. Of an option given twice the last value counts.
-/
import DeliveryWatch.Command.Options
import DeliveryWatch.Ping.Email

namespace DeliveryWatch.Command

/-- What the options stand for. -/
inductive Key
  | help
  | sender
  | recipient
  | token
  | subjectPrefix
  | body
  | createTable
  | noRecord
  | send
  | host
  | port
  | user
  | password
  | tls
  deriving Repr, DecidableEq

/-- The options of the command. -/
def choices : List (Choice Key) :=
  [⟨.help, ["-h", "--help"], false⟩, ⟨.sender, ["--from"], true⟩, ⟨.recipient, ["--to"], true⟩,
   ⟨.token, ["--guid"], true⟩, ⟨.subjectPrefix, ["--subject-prefix"], true⟩,
   ⟨.body, ["--body"], true⟩, ⟨.createTable, ["--create-table"], false⟩,
   ⟨.noRecord, ["--no-record"], false⟩, ⟨.send, ["--send"], false⟩,
   ⟨.host, ["--smtp-host"], true⟩, ⟨.port, ["--smtp-port"], true⟩, ⟨.user, ["--smtp-user"], true⟩,
   ⟨.password, ["--smtp-password"], true⟩, ⟨.tls, ["--smtp-tls"], false⟩]

/-- What is asked for: a probe mail, and what is to be done with it. -/
structure Order where
  sender : Option String := none
  recipient : Option String := none
  /-- The token, unless a new one is to be made up. -/
  token : Option String := none
  subjectPrefix : String := "Delivery check"
  body : Option String := none
  /-- Whether the table of pings is to be created. -/
  createsTable : Bool := false
  /-- Whether the ping is to be recorded. -/
  records : Bool := true
  /-- Whether the mail is to be sent, rather than printed. -/
  sends : Bool := false
  host : String := "localhost"
  port : Int := 25
  user : Option String := none
  password : Option String := none
  tls : Bool := false
  extras : List String := []
  deriving Repr, DecidableEq

/-- What arguments come to. -/
inductive Asked
  | usage
  | order (o : Order)
  | fault (f : UsageFault)

namespace Order

/-- Switch an option on. -/
def switch (o : Order) : Key → Order
  | .createTable => { o with createsTable := true }
  | .noRecord => { o with records := false }
  | .send => { o with sends := true }
  | .tls => { o with tls := true }
  | _ => o

/-- Set the value of an option. -/
def set (o : Order) (c : Choice Key) (text : String) : Except UsageFault Order :=
  match c.key with
  | .sender => .ok { o with sender := some text }
  | .recipient => .ok { o with recipient := some text }
  | .token => .ok { o with token := some text }
  | .subjectPrefix => .ok { o with subjectPrefix := text }
  | .body => .ok { o with body := some text }
  | .host => .ok { o with host := text }
  | .user => .ok { o with user := some text }
  | .password => .ok { o with password := some text }
  | .port =>
    match Text.number? text.toList with
    | some n => .ok { o with port := n }
    | none => .error (.noNumber c.shown text)
  | _ => .ok o

/-- The required options that are missing. -/
def missing (o : Order) : List String :=
  (if o.sender.isNone then ["--from"] else []) ++ (if o.recipient.isNone then ["--to"] else [])

/-- What is asked for once all has been read. -/
def finish (o : Order) : Asked :=
  if !o.missing.isEmpty then .fault (.missing o.missing)
  else if !o.extras.isEmpty then .fault (.unrecognized o.extras)
  else .order o

/-- Follow what the arguments say. Asking for the usage ends it, as does a fault. -/
def follow (o : Order) : List (Except UsageFault (Step Key)) → Asked
  | [] => o.finish
  | .error f :: _ => .fault f
  | .ok (.on .help) :: _ => .usage
  | .ok (.on key) :: rest => follow (o.switch key) rest
  | .ok (.value c text) :: rest =>
    match o.set c text with
    | .ok o => follow o rest
    | .error f => .fault f
  | .ok (.extra text) :: rest => follow { o with extras := o.extras ++ [text] } rest

/-- What the arguments of the command ask for. -/
def ofArguments (arguments : List String) : Asked :=
  match tokens choices arguments with
  | .ok ts => follow {} (steps choices ts)
  | .error f => .fault f

/-- The mail that is asked for, with its token. -/
def email (o : Order) (token : String) : Ping.Email where
  sender := o.sender.getD ""
  recipient := o.recipient.getD ""
  token := token
  subjectPrefix := o.subjectPrefix
  body := o.body

end Order

end DeliveryWatch.Command
