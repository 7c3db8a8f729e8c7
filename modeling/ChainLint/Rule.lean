import ChainLint.Json.Value

/-!
# The registered rules

Every rule has an unqualified name, which findings carry, and an id with the name of the plugin in
front, which configurations use.

* `Rule.all`: the rules in the order of their registration.
* `Rule.find? name`: the rule of an unqualified name.
* `Rule.isKnown id`: whether an id belongs to a rule.
-/

namespace ChainLint

/-- What a rule is concerned with. -/
inductive Category
  | problem
  | suggestion
  | layout
deriving DecidableEq, Inhabited

/-- The name of a category. -/
def Category.text : Category → String
  | .problem => "problem"
  | .suggestion => "suggestion"
  | .layout => "layout"

/-- The categories, the gravest first. -/
def Category.all : List Category := [.problem, .suggestion, .layout]

/-- What is known of a rule apart from its check. -/
structure Rule where
  name : String
  category : Category
  description : String
  docsUrl : String
deriving DecidableEq, Inhabited

/-- The name of the plugin. -/
def pluginName : String := "ringcentral"

/-- What stands before a rule's name in its id. -/
def pluginPrefix : String := pluginName ++ "/"

/-- A name with the name of the plugin in front. -/
def qualified (name : String) : String := pluginPrefix ++ name

namespace Rule

/-- The name of the rule on comments that mark work. -/
def commentName : String := "specified-comment-with-task-id"

/-- The name of the rule on chains of brand checks. -/
def chainName : String := "too-many-brand-check-call"

/-- The home of the rules' documentation. -/
def docsHome : String := "https://github.com/ringcentral/ringcentral-javascript"

/-- Comments that mark work name a task or a person. -/
def comment : Rule where
  name := commentName
  category := .layout
  description := "Specify TODO / FIXME comments with a task id or username"
  docsUrl := docsHome ++
    "#specify-todo--fixme-comment-with-jira-or-another-bug-tracking-system-task-id-or-username"

/-- Logical expressions call few brand checks. -/
def chain : Rule where
  name := chainName
  category := .suggestion
  description := "Use brand check method more than 3 times in same LogicalExpression"
  docsUrl := docsHome

/-- The rules in the order of their registration. -/
def all : List Rule := [comment, chain]

/-- The id that configurations use. -/
def id (r : Rule) : String := qualified r.name

/-- The rule of an unqualified name. -/
def find? (name : String) : Option Rule := all.find? (·.name = name)

/-- Whether an id belongs to a rule. -/
def isKnown (id : String) : Bool := all.any (·.id = id)

/-- A rule as a document. -/
def toJson (r : Rule) : Json :=
  .object [("id", .string r.id), ("category", .string r.category.text),
    ("description", .string r.description), ("docsUrl", .string r.docsUrl)]

end Rule

end ChainLint
