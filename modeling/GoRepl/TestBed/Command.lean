import GoRepl.TestBed.Command.Characters
import GoRepl.TestBed.Command.Columns
import GoRepl.TestBed.Command.Compare
import GoRepl.TestBed.Command.Digest
import GoRepl.TestBed.Command.Editor.Run
import GoRepl.TestBed.Command.Ends
import GoRepl.TestBed.Command.Find
import GoRepl.TestBed.Command.Numbering
import GoRepl.TestBed.Command.Raw
import GoRepl.TestBed.Command.Records.Run
import GoRepl.TestBed.Command.Search
import GoRepl.TestBed.Command.Sequence
import GoRepl.TestBed.Command.Sorted
import GoRepl.TestBed.Command.Starting
import GoRepl.TestBed.Command.Transfer
import GoRepl.TestBed.Command.Width

/-! # Test bed: the commands of the machine

All commands that are found by name, apart from shells. -/

namespace GoRepl.Machine

def ending (status : Nat) (_ : Call) : Work Nat := return status

/-- A command that is called with one more option. -/
def withOption (option : String) (command : Call → Work Nat) (c : Call) : Work Nat :=
  command { c with args := option.toList :: c.args }

/-- The commands that do their work by themselves. -/
def commands : List (String × (Call → Work Nat)) :=
  [ ("true", ending 0), ("false", ending 1), ("sync", ending 0), ("echo", Values.echo),
    ("printf", Values.printf), ("test", Values.test), ("[", Values.test),
    ("basename", Values.basename), ("dirname", Values.dirname), ("yes", Values.yes),
    ("seq", Sequence.seq), ("sleep", Values.sleep), ("expr", Values.expr), ("pwd", Values.pwd),
    ("uname", Values.uname), ("whoami", Values.constant Listing.userName),
    ("arch", Values.constant "x86_64"), ("hostname", Values.constant "localhost"),
    ("nproc", Values.constant "4"), ("date", Values.date), ("id", Values.id),
    ("printenv", Values.printenv), ("factor", Values.factor), ("tty", Values.tty),
    ("logname", Values.logname), ("groups", Values.groups), ("who", ending 0),
    ("users", ending 0),
    ("cat", Lines.cat), ("head", Ends.head), ("tail", Ends.tail), ("wc", Lines.wc),
    ("nl", Numbering.nl), ("tac", Lines.tac), ("rev", Lines.rev), ("fold", Width.fold),
    ("expand", Width.expand), ("unexpand", Width.unexpand), ("tee", Lines.tee),
    ("split", Lines.split), ("sort", Order.sort), ("uniq", Order.uniq), ("comm", Sorted.comm),
    ("join", Sorted.join), ("tsort", Order.tsort), ("cut", Columns.cut), ("paste", Columns.paste),
    ("column", Columns.column), ("tr", Characters.tr), ("sed", Editor.sed),
    ("grep", Search.search false false), ("egrep", Search.search true false),
    ("fgrep", Search.search false true), ("od", Raw.od), ("dd", Raw.dd), ("base64", Raw.base64),
    ("base32", Raw.base32), ("cksum", Digest.cksum), ("sum", Digest.sum),
    ("md5sum", Digest.named Digest.md5sum), ("sha1sum", Digest.named Digest.sha1sum),
    ("sha224sum", Digest.named Digest.sha224sum), ("sha256sum", Digest.named Digest.sha256sum),
    ("sha384sum", Digest.named Digest.sha384sum), ("sha512sum", Digest.named Digest.sha512sum),
    ("mkdir", Files.mkdir), ("mkfifo", Files.mkfifo), ("rmdir", Files.rmdir), ("rm", Files.rm),
    ("unlink", Files.unlink), ("touch", Files.touch), ("truncate", Files.truncate),
    ("cp", Transfer.cp), ("mv", Transfer.mv), ("ln", Transfer.ln), ("link", Transfer.link),
    ("install", Transfer.install), ("chmod", Files.chmod), ("mktemp", Files.mktemp),
    ("ls", Listing.ls), ("dir", withOption "-Cb" Listing.ls),
    ("vdir", withOption "-lb" Listing.ls), ("stat", Listing.stat),
    ("realpath", Listing.realpath), ("readlink", Listing.readlink), ("du", Listing.du),
    ("cmp", Compare.cmp),
    ("diff", Compare.diff) ]

/-- The commands that may start others. -/
def starters : List (String × Starting.Starter) :=
  let plain (f : Launch → Call → Work Nat) : Starting.Starter := fun launch c => do
    return { status := ← f launch c }
  Starting.table ++ [("find", plain Find.find), ("mawk", plain Records.awk)]

/-- The names that stand for other commands. -/
def synonyms : List (String × String) := [("sh", "dash"), ("awk", "mawk")]

def shells : List String := ["dash", "bash"]

/-- What a command does, unless it is a shell. -/
def command? (name : Text) : Option Starting.Starter :=
  match commands.find? (·.1.toList = name) with
  | some (_, f) => some fun _ c => do return { status := ← f c }
  | none => (starters.find? (·.1.toList = name)).map Prod.snd

end GoRepl.Machine
