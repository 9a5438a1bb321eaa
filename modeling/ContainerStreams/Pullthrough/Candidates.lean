import ContainerStreams.History
import ContainerStreams.Pullthrough.LocalRegistry
import ContainerStreams.Reference.Defaults
import ContainerStreams.SortedMap

/-!
The repositories that a missing blob may be pulled through from, in order of preference: the local
repositories if wanted, then the newest event of each tag, then all older events. A repository
counts at its first appearance. An event that names the local registry is passed over, and once a
tag allows insecure transport, it is allowed for every candidate on that tag's registries.
-/

set_option autoImplicit false

namespace ContainerStreams

structure PullSpec where
  reference : ImageReference
  insecure : Bool
  deriving DecidableEq

def PullSpec.repository (spec : PullSpec) : String :=
  spec.reference.repository.text

/-- The hostname that a candidate is pulled from, which is empty if it names none. -/
def PullSpec.hostname (spec : PullSpec) : String :=
  spec.reference.hostname?.getD ""

namespace Pullthrough

/-- The repositories of the candidates, most preferred first, and what each is pulled by. -/
structure Candidates where
  order : List String := []
  specs : SortedMap PullSpec := {}
  deriving DecidableEq

/-- Adds a candidate unless its repository has one. -/
def Candidates.offer (candidates : Candidates) (spec : PullSpec) : Candidates :=
  if candidates.specs.contains spec.repository then candidates
  else {
    order := candidates.order ++ [spec.repository]
    specs := candidates.specs.insert spec.repository spec }

/-- The candidates found so far, and for each hostname met so far whether a tag marks it. -/
structure Survey where
  candidates : Candidates := {}
  insecureHosts : SortedMap Bool := {}
  deriving DecidableEq

namespace Survey

def marks (survey : Survey) (hostname : String) : Bool :=
  (survey.insecureHosts.get? hostname).getD false

def visit (survey : Survey) (spec : PullSpec) : Survey where
  candidates := survey.candidates.offer spec
  insecureHosts :=
    survey.insecureHosts.insert spec.hostname (survey.marks spec.hostname || spec.insecure)

/-- The candidates, with every one on a marked hostname insecure. -/
def settled (survey : Survey) : Candidates :=
  { survey.candidates with
    specs := survey.candidates.specs.map fun spec =>
      { spec with insecure := spec.insecure || survey.marks spec.hostname } }

end Survey

/-- What an event refers to, if that is readable and does not lead back here. -/
def remote? (site : LocalRegistry) (event : TagEvent) : Option ImageReference :=
  match ImageReference.parse event.pullReference with
  | .ok reference => if site.isLocal reference then none else some reference
  | .error _ => none

/-- The candidate that an event stands for, completed as a client would complete it. -/
def specOf? (stream : ImageStream) (site : LocalRegistry) (defaults : DefaultRegistry)
    (entry : String × TagEvent) : Option PullSpec :=
  (remote? site entry.2).map fun reference => {
    reference := defaults.complete reference
    insecure := stream.isInsecure || stream.tagAllowsInsecure entry.1 }

def ownSpecs (stream : ImageStream) (site : LocalRegistry) (primary : Bool) : List PullSpec :=
  (if primary then site.repositories else []).map fun reference =>
    { reference, insecure := stream.isInsecure }

/-- The candidates that the history stands for, most preferred first and with repetitions. -/
def recordedSpecs (stream : ImageStream) (site : LocalRegistry) (defaults : DefaultRegistry) :
    List PullSpec :=
  (stream.heads ++ stream.olderEvents).filterMap (specOf? stream site defaults)

def candidates (stream : ImageStream) (site : LocalRegistry) (primary : Bool)
    (defaults : DefaultRegistry) : Candidates :=
  let start : Survey := { candidates := (ownSpecs stream site primary).foldl Candidates.offer {} }
  ((recordedSpecs stream site defaults).foldl Survey.visit start).settled

end Pullthrough

end ContainerStreams
