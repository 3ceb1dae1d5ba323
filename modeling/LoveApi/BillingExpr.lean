import LoveApi.Go

/-!
# Billing expressions

A model can be priced by an expression over the token counts of a request. The language of expressions is a library:
what a text evaluates to is a parameter of the model. Floats are exact rationals.
-/

namespace LoveApi.BillingExpr

open Go

/-! ### Values -/

inductive Value
  | nil
  | bool (b : Bool)
  | num (q : ℚ)
  | str (s : String)
  | json (text : String)
deriving DecidableEq, Repr

structure TokenParams where
  p : ℚ := 0
  c : ℚ := 0
  len : ℚ := 0
  cr : ℚ := 0
  cc : ℚ := 0
  cc1h : ℚ := 0
  img : ℚ := 0
  imgO : ℚ := 0
  ai : ℚ := 0
  ao : ℚ := 0
deriving DecidableEq, Repr

structure RequestInput where
  headers : List (String × String) := []
  body : String := ""
deriving DecidableEq, Repr

structure Clock where
  hour : Nat
  minute : Nat
  weekday : Nat
  month : Nat
  day : Nat
deriving DecidableEq, Repr

inductive Var
  | p
  | c
  | len
  | cr
  | cc
  | cc1h
  | img
  | imgO
  | ai
  | ao
deriving DecidableEq, Repr

/-- What `tier` has recorded. -/
structure TraceResult where
  matchedTier : String := ""
  cost : ℚ := 0
deriving DecidableEq, Repr

/-- The environment of a run, without `tier` and the functions of the package `math`. -/
structure ExprEnv where
  params : TokenParams
  header : String → String
  param : String → Value
  has : Value → String → Bool
  clock : String → Clock

/-- The libraries. -/
structure Host where
  /-- The error of `expr.Compile`, if the text has one. -/
  compileError : String → Option String
  /-- `expr.Run` at a time: the value of the text, and its calls of `tier` in their order. -/
  run : String → Time → ExprEnv → Except String (Value × List TraceResult)
  /-- Whether the syntax tree of the text has the variable. -/
  hasIdentifier : String → Var → Bool
  /-- The value at a path of a body. -/
  gjson : String → String → Value
  /-- The local time in a zone, and that of UTC in an unknown one. -/
  localTime : Time → String → Clock
  /-- A number as a verb of `fmt` prints it. -/
  formatFloat : Char → ℚ → String

/-! ### Evaluation -/

section Run

variable (host : Host)

def sprint : Value → String
  | .nil => "<nil>"
  | .bool b => toString b
  | .num q => host.formatFloat 'v' q
  | .str s => s
  | .json text => text

/-- The name of the type of a value, as `%T` prints it. -/
def Value.typeName : Value → String
  | .nil => "<nil>"
  | .bool _ => "bool"
  | .num _ => "float64"
  | .str _ => "string"
  | .json text => if hasPrefix text "[" then "[]interface \x7b\x7d" else "map[string]interface \x7b\x7d"

/-- Header names without case and blanks; entries without a name or a value are dropped. -/
def normalizeHeaders (headers : List (String × String)) : List (String × String) :=
  (headers.map fun h => (toLower (trimSpace h.1), trimSpace h.2)).filter fun h => h.1 ≠ "" && h.2 ≠ ""

def runEnv (now : Time) (params : TokenParams) (request : RequestInput) : ExprEnv where
  params := params
  header key := ((normalizeHeaders request.headers).lookup (toLower (trimSpace key))).getD ""
  param path :=
    if trimSpace path = "" || request.body = "" then .nil else host.gjson request.body (trimSpace path)
  has source substr := if source = .nil || substr = "" then false else contains (sprint host source) substr
  clock zone := host.localTime now (trimSpace zone)

/-- The version of an expression, and its text without the version. -/
def parseExprVersion (exprStr : String) : Nat × String := (1, trimPrefix exprStr "v1:")

def runProgram (now : Time) (body : String) (params : TokenParams) (request : RequestInput) :
    Except String (ℚ × TraceResult) :=
  match host.run body now (runEnv host now params request) with
  | .error e => .error ("expr run error: " ++ e)
  | .ok (.num q, tiers) => .ok (q, tiers.getLast?.getD {})
  | .ok (out, _) => .error ("expr result is " ++ out.typeName ++ ", want float64")

def runExprWithRequest (now : Time) (exprStr : String) (params : TokenParams) (request : RequestInput) :
    Except String (ℚ × TraceResult) :=
  let (_, body) := parseExprVersion exprStr
  match host.compileError body with
  | some e => .error ("expr compile error: " ++ e)
  | none => runProgram host now body params request

/-- The variables of an expression; one that does not compile has none. -/
def usedVars (exprStr : String) (x : Var) : Bool :=
  let (_, body) := parseExprVersion exprStr
  exprStr ≠ "" && (host.compileError body).isNone && host.hasIdentifier body x

end Run

/-! ### Settlement -/

structure BillingSnapshot where
  billingMode : String := "tiered_expr"
  exprString : String
  groupRatio : ℚ := 1
  estimatedQuotaAfterGroup : Int := 0
  estimatedTier : String := ""
  quotaPerUnit : ℚ := 500000
deriving DecidableEq, Repr

structure TieredResult where
  actualQuotaBeforeGroup : ℚ
  actualQuotaAfterGroup : Int
  matchedTier : String
  crossedTier : Bool
deriving DecidableEq, Repr

def quotaRound (q : ℚ) : Int := roundHalfAway q

def quotaConversion (exprOutput : ℚ) (snap : BillingSnapshot) : ℚ := exprOutput / 1000000 * snap.quotaPerUnit

section Settle

variable (host : Host)

def computeTieredQuotaWithRequest (now : Time) (snap : BillingSnapshot) (params : TokenParams)
    (request : RequestInput) : Except String TieredResult := do
  let (cost, trace) ← runExprWithRequest host now snap.exprString params request
  let quotaBeforeGroup := quotaConversion cost snap
  return {
    actualQuotaBeforeGroup := quotaBeforeGroup
    actualQuotaAfterGroup := quotaRound (quotaBeforeGroup * snap.groupRatio)
    matchedTier := trace.matchedTier
    crossedTier := trace.matchedTier ≠ snap.estimatedTier }

/-! ### The check before an expression is saved -/

def smokeVectors : List TokenParams :=
  [{ p := 0, c := 0, len := 0 }, { p := 1000, c := 1000, len := 1000 },
    { p := 100000, c := 100000, len := 100000 }, { p := 1000000, c := 1000000, len := 1000000 }]

def smokeBody : String :=
  "\x7b\"service_tier\":\"fast\",\"stream_options\":\x7b\"include_usage\":true\x7d," ++
    "\"messages\":[1,2,3,4,5,6,7,8,9,10,11,12,13,14,15,16,17,18,19,20,21]\x7d"

def smokeRequests : List RequestInput :=
  [{}, { headers := [("anthropic-beta", "fast-mode-2026-02-01")], body := smokeBody }]

def smokeInputs (now : Nat → Time) : List (Time × TokenParams × RequestInput) :=
  (smokeVectors.flatMap fun vector => smokeRequests.map fun request => (vector, request)).zipIdx.map fun input =>
    (now input.2, input.1)

def smokeRun (exprStr : String) (input : Time × TokenParams × RequestInput) : Except String Unit := do
  let name := "vector \x7bp=" ++ host.formatFloat 'g' input.2.1.p ++ ", c=" ++ host.formatFloat 'g' input.2.1.c ++
    "\x7d"
  match runExprWithRequest host input.1 exprStr input.2.1 input.2.2 with
  | .error e => throw (name ++ ": run failed: " ++ e)
  | .ok (result, _) =>
    if result < 0 then throw (name ++ ": result " ++ host.formatFloat 'f' result ++ " < 0") else pure ()

/-- The check of an expression; `now` gives the times of its runs. -/
def smokeTestExpr (now : Nat → Time) (exprStr : String) : Except String Unit :=
  (smokeInputs now).forM (smokeRun host exprStr)

end Settle

end LoveApi.BillingExpr
