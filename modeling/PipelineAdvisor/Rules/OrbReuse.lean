import PipelineAdvisor.Pipeline.Config
import PipelineAdvisor.Finding.Summary
import PipelineAdvisor.Rules.Snippet

/-!
Steps written by hand that an orb covers. Each pattern recognises commands in the text of a job; a
declared orb of the same namespace, in any version, silences its suggestion.
-/

namespace PipelineAdvisor.OrbReuse

/-- Whether a test holds of the text from some place on where a word may begin. The flag tells
whether the character before the text belongs to a word. -/
def atWordStart (test : List Char → Bool) : Bool → List Char → Bool
  | _, [] => false
  | inWord, c :: rest =>
    (!inWord && test (c :: rest)) || atWordStart test (Text.isWord c) rest

def after? (word : List Char) (text : List Char) : Option (List Char) :=
  if word.isPrefixOf text then some (text.drop word.length) else none

def afterBlanks? (text : List Char) : Option (List Char) :=
  if text.head?.elim false Text.isBlank then some (text.dropWhile Text.isBlank) else none

def endsWord (text : List Char) : Bool :=
  text.head?.elim true fun c => !Text.isWord c

def isCommandChar (c : Char) : Bool :=
  ('a' ≤ c && c ≤ 'z') || c.isDigit || c == '-'

def callsAws (text : List Char) : Bool :=
  atWordStart (fun text =>
    (((after? "aws".toList text).bind afterBlanks?).bind List.head?).elim false isCommandChar)
    false text

def namesSlack (text : List Char) : Bool :=
  Text.occursIn "hooks.slack.com".toList text ||
    atWordStart (fun text => (after? "slack".toList text).elim false endsWord) false text

def installsPackages (text : List Char) : Bool :=
  atWordStart (fun text =>
    ["npm", "yarn", "pnpm"].any fun manager =>
      ((after? manager.toList text).bind afterBlanks?).elim false fun text =>
        ["install", "ci"].any fun command => (after? command.toList text).elim false endsWord)
    false text

structure Pattern where
  slug : String
  matchesText : List Char → Bool
  reference : String
  name : String

def patterns : List Pattern :=
  [⟨"aws-cli", callsAws, "circleci/aws-cli@4.1", "AWS CLI"⟩,
    ⟨"slack", namesSlack, "circleci/slack@4.13", "Slack"⟩,
    ⟨"node", installsPackages, "circleci/node@5.2", "Node.js"⟩]

def suggestion (job : Job) (pattern : Pattern) : Finding :=
  { Finding.start .orbs pattern.slug job.name .low Score.reusableOrb
      s!"Use the {pattern.name} orb in job '{job.name}'" with
    currentState :=
      s!"Job '{job.name}' hand-writes {pattern.name} steps and no " ++
      s!"{orbNamespace pattern.reference} orb is declared."
    problem := "Hand-rolled setup drifts between jobs and misses fixes the maintained orb ships."
    recommendation :=
      s!"Declare {pattern.reference} and replace the custom commands with its jobs and " ++
      "commands."
    example? := some (Snippet.orbUsage pattern.slug pattern.reference)
    affectedJobs := [job.name] }

def inspectJob (config : Config) (job : Job) : List Finding :=
  let lowered := Text.lowerAscii job.stepsText
  (patterns.filter fun pattern =>
    pattern.matchesText lowered && !config.declaresOrb (orbNamespace pattern.reference)).map
    (suggestion job)

def inspect (config : Config) : List Finding :=
  config.jobs.flatMap (inspectJob config)

end PipelineAdvisor.OrbReuse
