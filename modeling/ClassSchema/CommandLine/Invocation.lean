import ClassSchema.CommandLine.Usage

/-!
# Invocations

A command line holds options for all jobs, the name of a job, and the arguments of that job. All
arguments are sorted by the common options first, so that a name that starts several of those is a
mistake wherever it stands; what follows the name of the job is then sorted anew by the options of
the job.
-/

namespace ClassSchema.CommandLine

/-- What a command line asks for. -/
inductive Job
  | convert
  | check
  | tokens
deriving DecidableEq

namespace Job

/-- All jobs. -/
def all : List Job := [convert, check, tokens]

/-- The name of a job. -/
def name : Job → String
  | convert => "convert"
  | check => "check"
  | tokens => "tokens"

/-- The job of a given name. -/
def ofName? (name : String) : Option Job := all.find? (·.name = name)

/-- The options that say which fields take part and when they are required. -/
def fieldNames : List (String × Switch) :=
  [("exclude-private", .excludePrivate), ("required-strategy", .requiredStrategy),
    ("comment-style", .commentStyle)]

/-- The options for the output of a conversion. -/
def outputNames : List (String × Switch) :=
  [("out", .out), ("format", .format), ("no-validate", .noValidate), ("no-progress", .noProgress)]

/-- The options of a job. -/
def usage (job : Job) : Usage where
  letters := [('h', .help)]
  names := ("help", .help) ::
    match job with
    | convert => fieldNames ++ outputNames
    | check => fieldNames
    | tokens => []

end Job

/-- The options for all jobs. -/
def commonUsage : Usage where
  letters := [('h', .help), ('v', .verbose)]
  names := [("help", .help), ("verbose", .verbose)]

/-- A job with its settings and the path of its input. -/
structure Invocation where
  job : Job
  settings : Settings
  path : Path

namespace Invocation

/-- Whether a mark ends the common options. -/
def endsOptions : Mark → Bool
  | .operand _ | .divider => true
  | _ => false

/-- Reads a command line. -/
def ofArguments (args : List String) : Except Refusal Invocation := do
  let marks ← commonUsage.marks args
  let front := marks.takeWhile (!endsOptions ·)
  let p ← commonUsage.read {} front
  match args.drop front.length with
  | [] => .error .misused
  | name :: args =>
    match Job.ofName? name with
    | none => .error .misused
    | some job =>
      let (settings, path) ← job.usage.settings args
      if p.stray then .error .misused
      else .ok ⟨job, { settings with verbose := p.settings.verbose }, path⟩

end Invocation

end ClassSchema.CommandLine
