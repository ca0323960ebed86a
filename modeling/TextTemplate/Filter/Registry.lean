import TextTemplate.Filter

/-!
The filters that an engine knows, by name, in the order in which the names were first registered. What is
registered has to be a filter; a seed is taken as it is.
-/

namespace TextTemplate

inductive Candidate where
  | filter (filter : Filter)
  | value (value : Value)

structure Registry where
  entries : List (String × Candidate)

structure NotCallable where
  name : String
  typeName : String
  deriving DecidableEq, Repr

def NotCallable.message (refusal : NotCallable) : String :=
  "Filter '" ++ refusal.name ++ "' must be callable, got " ++ refusal.typeName

namespace Registry

def ofSeed (seed : List (String × Candidate)) : Registry :=
  ⟨Entries.assignAll (· == ·) [] seed⟩

def builtIn : Registry :=
  ofSeed (Filter.builtIns.map fun (name, filter) => (name, .filter filter))

def names (registry : Registry) : List String :=
  registry.entries.map Prod.fst

/-- What is registered under a name. A name may be there and stand for nothing. -/
def resolve? (registry : Registry) (name : String) : Option Candidate :=
  match Entries.find? (· == ·) registry.entries name with
  | some (.value .none) => none
  | found => found

def contains (registry : Registry) (name : String) : Bool :=
  registry.names.contains name

def register (registry : Registry) (name : String) : Candidate → Except NotCallable Registry
  | .filter filter => .ok ⟨Entries.assign (· == ·) registry.entries name (.filter filter)⟩
  | .value value => .error ⟨name, value.typeName⟩

def registerAlias (registry : Registry) (name source : String) : Except NotCallable Registry :=
  registry.register name ((registry.resolve? source).getD (.value .none))

end Registry

end TextTemplate
