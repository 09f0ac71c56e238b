import ReleaseAudit.Git.Script
import ReleaseAudit.Program

/-! The program at the console. The machine that it runs on is described by a JSON document on its
input: the folder it starts in, the variables, the files, and the replies of git. -/
namespace ReleaseAudit
namespace Console

def textAt (key : String) (v : Json) : String :=
  match v.field? key with
  | some (.str s) => s
  | _ => ""

def itemsAt (key : String) (v : Json) : List Json :=
  match v.field? key with
  | some (.arr items) => items
  | _ => []

def textsAt (key : String) (v : Json) : List (String × String) :=
  match v.field? key with
  | some (.obj fields) => fields.filterMap fun f =>
    match f.2 with
    | .str s => some (f.1, s)
    | _ => none
  | _ => []

def ruleOf (v : Json) : Git.Rule where
  args := (itemsAt "args" v).filterMap fun
    | .str s => some s
    | _ => none
  status := match v.field? "exit" with
    | some (.int n) => n.toNat
    | _ => 0
  out := (textAt "out" v).toUTF8.toList
  err := (textAt "err" v).toUTF8.toList

def placeOf (path : String) : Place := (Path.mk path).pieces.filter fun name => name ≠ "" && name ≠ "."

/-- The files of a description, with the folder in which the program starts. -/
def filesOf (v : Json) : FileSystem :=
  (textsAt "files" v).foldl (fun fs f => fs.withFile (placeOf f.1) f.2.toUTF8.toList)
    (FileSystem.empty.withFolder (placeOf (textAt "folder" v)))

def machineOf (v : Json) : Machine where
  files := filesOf v
  environment := textsAt "environment" v
  git := Git.scripted ((itemsAt "git" v).map ruleOf)
  isTerminal := false

/-- The outcome of the program on a described machine. -/
def outcomeOf (description : String) (args : List String) : Outcome :=
  match Json.parse description with
  | .ok v => Program.run (machineOf v) ⟨textAt "folder" v⟩ args
  | .error flaw => .ofTraced (.fail (.ofText ("Bad description of the machine: " ++ flaw.message)))

def start (args : List String) : IO UInt32 := do
  let description ← (← IO.getStdin).readToEnd
  let outcome := outcomeOf description args
  (← IO.getStdout).putStr outcome.output
  (← IO.getStderr).putStr outcome.messages
  return outcome.status.toUInt32

end Console
end ReleaseAudit

def main (args : List String) : IO UInt32 := ReleaseAudit.Console.start args
