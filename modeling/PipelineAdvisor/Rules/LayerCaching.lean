import PipelineAdvisor.Pipeline.Config
import PipelineAdvisor.Finding.Summary
import PipelineAdvisor.Rules.Snippet

/-!
Image builds that start without cached layers.
-/

namespace PipelineAdvisor.LayerCaching

def buildCommands : List String :=
  ["docker build", "docker buildx build", "docker-compose build", "docker compose build"]

def buildsImage (job : Job) : Bool :=
  let lowered := Text.lowerAscii job.stepsText
  buildCommands.any fun command => Text.occursIn command.toList lowered

def hasRemoteDocker (job : Job) : Bool :=
  job.steps.any fun step =>
    match step.kind with
    | .setupRemoteDocker _ => true
    | _ => false

def isEnabled (job : Job) : Bool :=
  let fromStep := job.steps.any fun step => step.kind = .setupRemoteDocker true
  let fromMachine :=
    match job.executor with
    | .machine _ layerCaching => layerCaching
    | _ => false
  fromStep || fromMachine

def disabled (job : Job) : Finding :=
  { Finding.start .layerCache "disabled" job.name .medium Score.layerCache
      s!"Docker layer caching is off in job '{job.name}'" with
    currentState :=
      if hasRemoteDocker job then
        s!"Job '{job.name}' builds a Docker image after setup_remote_docker without " ++
          "docker_layer_caching."
      else
        s!"Job '{job.name}' builds a Docker image on a {job.executor.kindName} executor " ++
          "without layer caching."
    problem := "Every build starts from an empty layer cache and rebuilds unchanged layers."
    recommendation :=
      "Enable docker_layer_caching on setup_remote_docker (or the machine executor) and " ++
      "order the Dockerfile so rarely changing layers come first."
    example? := some Snippet.layerCaching
    savings? := some (Savings.ofTime "3-8 min")
    affectedJobs := [job.name] }

def inspect (config : Config) : List Finding :=
  (config.jobs.filter fun job => buildsImage job && !isEnabled job).map disabled

end PipelineAdvisor.LayerCaching
