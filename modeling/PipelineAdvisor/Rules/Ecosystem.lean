import PipelineAdvisor.Text.Search

/-!
Package ecosystems, recognised from the name of an image, with what a cache of their dependencies
needs.
-/

namespace PipelineAdvisor

inductive Ecosystem where
  | nodeJs
  | ruby
  | python
  | java
  | php
  | go
  | generic
deriving DecidableEq, Inhabited, Repr

namespace Ecosystem

def imageMarkers : List (List String × Ecosystem) :=
  [(["node"], .nodeJs), (["ruby", "rails"], .ruby), (["python", "django"], .python),
    (["openjdk", "java", "maven", "gradle", "jdk"], .java), (["php", "laravel"], .php),
    (["golang", "cimg/go", "circleci/go"], .go)]

def ofImage (image : Option String) : Ecosystem :=
  match image with
  | none => .generic
  | some image =>
    let name := image.toLower
    match imageMarkers.find? fun entry => entry.1.any fun marker => Text.contains name marker with
    | some (_, ecosystem) => ecosystem
    | none => .generic

def lockfile : Ecosystem → String
  | .nodeJs => "package-lock.json"
  | .ruby => "Gemfile.lock"
  | .python => "requirements.txt"
  | .java => "pom.xml"
  | .php => "composer.lock"
  | .go => "go.sum"
  | .generic => "<lockfile>"

def dependencyPath : Ecosystem → String
  | .nodeJs => "node_modules"
  | .ruby => "vendor/bundle"
  | .python => "~/.cache/pip"
  | .java => "~/.m2"
  | .php => "vendor"
  | .go => "~/go/pkg/mod"
  | .generic => "<dependency-directory>"

def installCommand : Ecosystem → String
  | .nodeJs => "npm ci"
  | .ruby => "bundle config set path vendor/bundle && bundle install"
  | .python => "pip install -r requirements.txt"
  | .java => "mvn dependency:go-offline"
  | .php => "composer install --no-interaction"
  | .go => "go mod download"
  | .generic => "<install dependencies>"

def cachePrefix : Ecosystem → String
  | .nodeJs => "v1-npm-deps"
  | .ruby => "v1-gem-deps"
  | .python => "v1-pip-deps"
  | .java => "v1-maven-deps"
  | .php => "v1-composer-deps"
  | .go => "v1-go-mod"
  | .generic => "v1-deps"

end Ecosystem

end PipelineAdvisor
