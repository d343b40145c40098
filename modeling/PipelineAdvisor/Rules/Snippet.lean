import PipelineAdvisor.Rules.Ecosystem

/-!
Examples that go with findings: pieces of configuration for the reader to adapt. Names are put in as
they are, without quoting.
-/

namespace PipelineAdvisor.Snippet

def ofLines (lines : List String) : String :=
  String.intercalate "\n" lines

def checksumKey (ecosystem : Ecosystem) : String :=
  ecosystem.cachePrefix ++ "-\x7b\x7b checksum \"" ++ ecosystem.lockfile ++ "\" \x7d\x7d"

def dependencyCache (ecosystem : Ecosystem) : String :=
  ofLines [
    "steps:",
    "  - checkout",
    "  - restore_cache:",
    "      keys:",
    "        - " ++ checksumKey ecosystem,
    "        - " ++ ecosystem.cachePrefix ++ "-",
    "  - run: " ++ ecosystem.installCommand,
    "  - save_cache:",
    "      key: " ++ checksumKey ecosystem,
    "      paths:",
    "        - " ++ ecosystem.dependencyPath]

def checksumCacheKeys (ecosystem : Ecosystem) : String :=
  ofLines [
    "- restore_cache:",
    "    keys:",
    "      - " ++ checksumKey ecosystem,
    "      - " ++ ecosystem.cachePrefix ++ "-"]

def resourceClass (job tier : String) : String :=
  ofLines ["jobs:", "  " ++ job ++ ":", "    resource_class: " ++ tier]

def testSplitting (job : String) : String :=
  ofLines [
    "jobs:",
    "  " ++ job ++ ":",
    "    parallelism: 4",
    "    steps:",
    "      - checkout",
    "      - run: |",
    "          TESTS=$(circleci tests glob \"**/*.test.*\" | " ++
      "circleci tests split --split-by=timings)",
    "          run-tests $TESTS",
    "      - store_test_results:",
    "          path: test-results"]

def fanOut (workflow : String) (jobs : List String) : String :=
  ofLines (["workflows:", "  " ++ workflow ++ ":", "    jobs:"] ++
    jobs.map ("      - " ++ ·) ++
    ["      # jobs without `requires` start together"])

def layerCaching : String :=
  ofLines [
    "- setup_remote_docker:",
    "    docker_layer_caching: true",
    "- run: docker build -t app ."]

def orbUsage (name reference : String) : String :=
  ofLines ["orbs:", "  " ++ name ++ ": " ++ reference]

def approvalGate (workflow before : String) : String :=
  ofLines [
    "workflows:",
    "  " ++ workflow ++ ":",
    "    jobs:",
    "      - hold-for-approval:",
    "          type: approval",
    "      - " ++ before ++ ":",
    "          requires:",
    "            - hold-for-approval"]

def secretFromContext (job : String) : String :=
  ofLines [
    "workflows:",
    "  main:",
    "    jobs:",
    "      - " ++ job ++ ":",
    "          context: production-secrets",
    "# then reference the value as $API_TOKEN inside the job"]

end PipelineAdvisor.Snippet
