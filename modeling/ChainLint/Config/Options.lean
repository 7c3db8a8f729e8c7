import ChainLint.Chain.Check
import ChainLint.Config.Document

/-!
# Options of the chain rule

The options of the rule on chains are a limit and more methods.  The limit may be any number: it is
cut off at zero and to its whole part, because a chain of `n ≥ 1` calls is longer than a number just
when it is longer than that.

* `ChainOptions.decoder`, `ChainOptions.toJson`: options in documents.
* `ChainRule.ofOptions?`: the rule built from options and shared settings.
-/

namespace ChainLint

/-- The options of the rule on chains. -/
structure ChainOptions where
  limit : Nat
  methods : List String
deriving DecidableEq, Inhabited

/-- The largest limit. -/
def limitBound : Nat := Nat.pow 2 64 - 1

/-- The float that a number is read as. -/
def Json.Number.toFloat? : Json.Number → Option Binary64
  | .integer i => Binary64.round (i < 0) i.natAbs 1
  | .real x => some x

/-- The limit that a number stands for.  A whole number beyond the floats, which no document holds,
would be cut off without one. -/
def limitOf : Json.Number → Nat
  | .integer i => min (((Json.Number.integer i).toFloat?.map Binary64.floor).getD i.toNat) limitBound
  | .real x => min x.floor limitBound

namespace ChainOptions

/-- Options that say nothing. -/
def empty : ChainOptions := ⟨ChainRule.defaultLimit, []⟩

/-- The name of the limit. -/
def limitKey : String := "maxAllowBrandCheckCall"

/-- Options in documents. -/
def decoder : Json.Decoder ChainOptions :=
  .record "TooManyBrandCheckCallConfig" empty
    [.of limitKey .number fun n o => { o with limit := limitOf n },
      .of Settings.methodsKey (.list .string) fun methods o => { o with methods := methods }]

/-- Options as a document. -/
def toJson (o : ChainOptions) : Json :=
  .object [(limitKey, Json.ofNat o.limit), (Settings.methodsKey, Json.ofStrings o.methods)]

end ChainOptions

namespace ChainRule

/-- The rule with the methods of the options and of the settings. -/
def ofOptions (o : ChainOptions) (s : Settings) : ChainRule :=
  ⟨o.limit, o.methods ++ s.brandCheckMethods⟩

/-- The rule of an entry's options, if they are accepted. -/
def ofOptions? (options : Option Json) (s : Settings) : Except Json.Fault ChainRule :=
  match options with
  | none => .ok (ofOptions .empty s)
  | some v => (ChainOptions.decoder.ofJson v).map (ofOptions · s)

end ChainRule

end ChainLint
