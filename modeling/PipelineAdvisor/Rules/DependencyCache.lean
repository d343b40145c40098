import PipelineAdvisor.Pipeline.Config
import PipelineAdvisor.Finding.Summary
import PipelineAdvisor.Rules.Snippet

/-!
Caching of dependencies: jobs that install without restoring a cache, and caches whose keys do not
follow the lockfile.
-/

namespace PipelineAdvisor.DependencyCache

def installCommands : List (String × Ecosystem) :=
  [("npm install", .nodeJs), ("npm ci", .nodeJs), ("yarn install", .nodeJs),
    ("pnpm install", .nodeJs), ("bundle install", .ruby), ("pip install", .python),
    ("pipenv install", .python), ("poetry install", .python), ("mvn install", .java),
    ("mvn dependency", .java), ("gradle dependencies", .java), ("composer install", .php),
    ("go mod download", .go)]

def detectInstall? (text : List Char) : Option (String × Ecosystem) :=
  let lowered := Text.lowerAscii text
  installCommands.find? fun entry => Text.occursIn entry.1.toList lowered

def restoreKeys (job : Job) : List String :=
  job.steps.flatMap fun step =>
    match step.kind with
    | .restoreCache keys => keys
    | _ => []

def restoresCache (job : Job) : Bool :=
  job.steps.any fun step =>
    match step.kind with
    | .restoreCache _ => true
    | _ => false

def savesCache (job : Job) : Bool :=
  job.steps.any fun step =>
    match step.kind with
    | .saveCache => true
    | _ => false

/-- The ecosystem that examples are written for: that of the image, or that of the install command
if the image tells nothing. -/
def ecosystem (job : Job) : Ecosystem :=
  match Ecosystem.ofImage job.executor.image? with
  | .generic => (detectInstall? job.stepsText).elim .generic (·.2)
  | ecosystem => ecosystem

def missing (job : Job) (command : String) : Finding :=
  let ecosystem := ecosystem job
  { Finding.start .cache "missing" job.name .high Score.missingCache
      s!"Dependencies are not cached in job '{job.name}'" with
    currentState :=
      if savesCache job then
        s!"Job '{job.name}' runs `{command}` and saves a cache, but never restores it."
      else s!"Job '{job.name}' runs `{command}` without restore_cache or save_cache steps."
    problem := "Every run downloads and installs the full dependency tree from scratch."
    recommendation :=
      s!"Restore a cache keyed on the checksum of {ecosystem.lockfile} before installing, " ++
      "and save it afterwards."
    example? := some (Snippet.dependencyCache ecosystem)
    savings? := some (Savings.ofTime "2-5 min")
    affectedJobs := [job.name] }

def weakKey (job : Job) : Finding :=
  let ecosystem := ecosystem job
  let keys := restoreKeys job
  let shown := if keys.isEmpty then "no keys" else String.intercalate ", " keys
  { Finding.start .cache "weak-key" job.name .medium Score.weakCacheKey
      s!"Cache key does not track dependencies in job '{job.name}'" with
    currentState := s!"restore_cache in job '{job.name}' uses: {shown}"
    problem :=
      "Without a checksum in the key the cache is never invalidated when dependencies " ++
      "change, so stale packages are restored or the cache is rebuilt only by hand."
    recommendation :=
      "Include \x7b\x7b checksum \"" ++ ecosystem.lockfile ++
      "\" \x7d\x7d in the primary key and keep a prefix key as fallback."
    example? := some (Snippet.checksumCacheKeys ecosystem)
    savings? := some (Savings.ofTime "1-2 min")
    affectedJobs := [job.name] }

def hasChecksumKey (job : Job) : Bool :=
  (restoreKeys job).any fun key => Text.contains key "checksum"

def inspectJob (job : Job) : List Finding :=
  let missing :=
    match detectInstall? job.stepsText with
    | some (command, _) => if restoresCache job then [] else [missing job command]
    | none => []
  let weak := if restoresCache job && !hasChecksumKey job then [weakKey job] else []
  missing ++ weak

def inspect (config : Config) : List Finding :=
  config.jobs.flatMap inspectJob

end PipelineAdvisor.DependencyCache
