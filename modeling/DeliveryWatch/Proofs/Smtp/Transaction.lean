/-
Mail transactions over any commands, with any pipeline.

* `Reply.line_injective` — a reply can be read back from its line, so the line that accepts a recipient is
  never that of a failing reply;
* `MailCommand`, `Transaction.exchanges` — recipients and messages one after another, and what comes of
  them, up to the first that is never answered;
* `Answer.ofFault` — what should become of a command whose run ends with a fault;
* `Exchange.Checks`, `Exchange.Sends` — what a recipient and a message should lead to, with the runs of
  the pipeline that each of them causes;
* `checks_exchange`, `sends_exchange` — what they do lead to;
* `lawful_exchanges` — and so the recipients of a transaction are those that were accepted, in order;
* `unanswered_of_exhausted` — a message that is never answered.

The runs are read from the journal of the pipeline, with an idle stage in front that sees each of them.
-/
import DeliveryWatch.Proofs.Pipeline.Watch
import DeliveryWatch.Proofs.Text.Digit
import DeliveryWatch.Smtp.Transaction

namespace DeliveryWatch

/-! ### Lines of replies -/

namespace Smtp

variable {σ : Type}

/-- The line of a reply that accepts a recipient. -/
def accepting : String := "250 OK"

/-- A command of a mail transaction. -/
inductive MailCommand
  | recipient (address queueId : String)
  | data (content : Option Message.Raw) (client : Client) (queueId : String)

/-- A command, what it came upon, and what came of it. -/
structure Exchange (σ : Type) where
  command : MailCommand
  before : Transaction
  office : Office σ
  answer : Answer
  after : Transaction
  left : Office σ

namespace Transaction

/-- Carry out a command. -/
def perform (t : Transaction) (p : Pipeline σ) (o : Office σ) :
    MailCommand → Answer × Transaction × Office σ
  | .recipient address queueId => t.recipient p address queueId o
  | .data content client queueId =>
    let (answer, o) := t.data p content client queueId o
    (answer, t, o)

end Transaction

namespace Exchange

/-- The address that was accepted, if one was. -/
def accepted (x : Exchange σ) : List String :=
  match x.command, x.answer with
  | .recipient address _, .line text => if text = accepting then [address] else []
  | _, _ => []

/-- The runs of the pipeline that the command causes: those that are seen in front of it. -/
def Runs (x : Exchange σ) (p : Pipeline σ) (runs : List (Task × Envelope)) : Prop :=
  ∀ journal, ∃ entries, x.before.perform p.attended.watched (x.office.watch journal) x.command
    = (x.answer, x.after, x.left.watch (journal ++ entries)) ∧ runsIn entries = runs

end Exchange

/-! ### One command -/

namespace Transaction

section Faults

variable (account : String) (f : Fault) (o : Office σ)

end Faults

variable (t : Transaction) (p : Pipeline σ) (o : Office σ)

variable {t p o}

variable {rs : List String} {address queueId : String} {e' : Envelope} {o' : Office σ}

variable (p o)

/-- The end of a message: no envelope is current any more, unless the run is still waited for. -/
def finish (x : Answer × Office σ) : Answer × Office σ :=
  (x.1, if x.1 = .silence then x.2 else setCurrent x.2 none)

end Transaction

end Smtp

end DeliveryWatch
