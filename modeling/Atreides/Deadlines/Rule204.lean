import Atreides.Deadlines.Engines

/-!
# The close-out of a fail to deliver

By when a fail to deliver is closed out: some days after its settlement or its trade, by its
origin, at the opening of regular trading.

## Main definitions

* `Rule204.Rule204Origin`, `Rule204.Rule204Fail` — a fail, and where it is from
* `assessRule204` — the advisory
-/

namespace Atreides

namespace Rule204

inductive Rule204Origin
  | shortOrGeneral
  | long
  | marketMaking
  | deemedOwned
  deriving DecidableEq, Repr

namespace Rule204Origin

def value : Rule204Origin → String
  | shortOrGeneral => "SHORT_OR_GENERAL"
  | long => "LONG"
  | marketMaking => "MARKET_MAKING"
  | deemedOwned => "DEEMED_OWNED"

/-- The origin a text names. -/
def ofValue (text : String) : Option Rule204Origin :=
  [shortOrGeneral, long, marketMaking, deemedOwned].find? fun origin => origin.value = text

def ruleId : Rule204Origin → String
  | shortOrGeneral => "rule_204.short_or_general"
  | long => "rule_204.long"
  | marketMaking => "rule_204.market_making"
  | deemedOwned => "rule_204.deemed_owned"

end Rule204Origin

structure Rule204Fail where
  security : String
  tradeDate : Date
  settlementDate : Date
  failQuantity : FiniteDecimal
  /-- the origin, or a text in its place -/
  originClass : Option String
  originatingOrderId : Option String := none
  locateId : Option String := none
  security_nonempty : security ≠ "" := by decide
  failQuantity_pos : FiniteDecimal.lt 0 failQuantity = true := by decide

/-- The opening of regular trading: a time of day, and its offset unless it is naive. -/
abbrev TradingOpen := ReserveDeposit.BankingOpen

structure Rule204Assessment extends DeadlineAssessment where
  dueAt : Option Timestamp := none
  evaluatedAt : Timestamp
  security : String
  failQuantity : FiniteDecimal
  originClass : Option String
  tableVersion : String
  ruleId : Option String := none
  ruleCitation : Option String := none
  sourceSha256 : Option String := none
  preborrowConditionApplies : Bool := false
  originatingOrderId : Option String
  locateId : Option String

variable (fail : Rule204Fail) (table : DeadlineRuleTable) (evaluatedAt : Timestamp)

/-- An assessment without a due time, and without a rule. -/
def undated (assessment : DeadlineAssessment) : Rule204Assessment where
  toDeadlineAssessment := assessment
  evaluatedAt := evaluatedAt
  security := fail.security
  failQuantity := fail.failQuantity
  originClass := fail.originClass
  tableVersion := table.tableVersion
  originatingOrderId := fail.originatingOrderId
  locateId := fail.locateId

/-- An assessment that says which rule it is by. -/
def byRule (rule : DeadlineRule) (assessment : Rule204Assessment) : Rule204Assessment :=
  { assessment with
    ruleId := some rule.ruleId
    ruleCitation := some rule.citation
    sourceSha256 := some rule.sourceSha256 }

/-- The day of the close-out: some settlement days after the settlement, or some days after the
trade. Without a calendar, or in other units, there is none. -/
def dueDate (ruleId : String) (rule : DeadlineRule) (calendar : Option DeadlineCalendar)
    (days : ℤ) : Outcome (Except DeadlineAssessment Date) :=
  match rule.unit with
  | .settlementDays =>
    match calendar with
    | none => .ok (.error { disposition := .hold, missingInputs := ["settlement_calendar"] })
    | some calendar => do
      let due ← calendar.addSettlementDays fail.settlementDate days
      .ok (.ok due)
  | .calendarDays => do
    let due ← fail.tradeDate.addDays days
    .ok (.ok due)
  | _ => .ok (.error { disposition := .indeterminate
                       missingRules := [ruleId ++ ":unsupported_unit"] })

/-- The close-out is due at the opening of its day, and overdue after it. Whether there is an
opening was checked only where the rule asks for one. -/
def dated (rule : DeadlineRule) (regularTradingOpen : Option TradingOpen) (due : Date) :
    Outcome Rule204Assessment :=
  match regularTradingOpen with
  | none => .error (.assertionError "opening time presence checked above")
  | some opening => do
    let due : Timestamp :=
      ⟨due, opening.microsecondOfDay, opening.utcOffset, opening.microsecondOfDay_lt⟩
    let overdue ← due.isBefore evaluatedAt
    let breaches := if overdue then ["rule_204.close_out_overdue"] else []
    .ok { byRule rule (undated fail table evaluatedAt
            { disposition := dispositionOf breaches, breaches }) with
          dueAt := some due
          preborrowConditionApplies := overdue }

/-- The close-out by the rule of the origin. -/
def closeOut (ruleId : String) (rule : DeadlineRule) (calendar : Option DeadlineCalendar)
    (regularTradingOpen : Option TradingOpen) : Outcome Rule204Assessment := do
  let days ← wholeValue rule ": deadline day count is not an integer"
  match ← dueDate fail ruleId rule calendar days with
  | .error assessment => .ok (byRule rule (undated fail table evaluatedAt assessment))
  | .ok due => dated fail table evaluatedAt rule regularTradingOpen due

/-- The caller's opening of trading is there, and has an offset. -/
def aware (regularTradingOpen : Option TradingOpen) : Bool :=
  regularTradingOpen.any fun opening => opening.utcOffset.isSome

/-- The close-out of a fail of an origin. -/
def ofOrigin (origin : Rule204Origin) (calendar : Option DeadlineCalendar)
    (regularTradingOpen : Option TradingOpen) : Outcome Rule204Assessment :=
  match table.get origin.ruleId with
  | none => .ok { undated fail table evaluatedAt
      { disposition := .indeterminate, missingRules := [origin.ruleId] } with
      ruleId := some origin.ruleId }
  | some rule =>
    if rule.requiresCallerOpeningTime && !aware regularTradingOpen then
      .ok (byRule rule (undated fail table evaluatedAt
        { disposition := .indeterminate, missingRules := ["regular_trading_hours"] }))
    else closeOut fail table evaluatedAt origin.ruleId rule calendar regularTradingOpen

/-- The close-out of a fail, by a table. -/
def assess (calendar : Option DeadlineCalendar) (regularTradingOpen : Option TradingOpen) :
    Outcome Rule204Assessment :=
  match fail.originClass with
  | none => .ok (undated fail table evaluatedAt
      { disposition := .hold, missingInputs := ["origin_class"] })
  | some text =>
    match Rule204Origin.ofValue text with
    | none => .ok (undated fail table evaluatedAt
        { disposition := .indeterminate, missingRules := ["origin_class:" ++ text] })
    | some origin => ofOrigin fail table evaluatedAt origin calendar regularTradingOpen

end Rule204

open Rule204 in
/-- By when a fail to deliver is closed out, and whether that is overdue. -/
def assessRule204 (loadRuleTable : Date → Outcome DeadlineRuleTable) (fail : Rule204Fail)
    (evaluatedAt : Timestamp) (calendar : Option DeadlineCalendar)
    (regularTradingOpen : Option TradingOpen) (table : Option DeadlineRuleTable) :
    Outcome Rule204Assessment := do
  let loaded ← tableFor loadRuleTable table evaluatedAt
  let assessment ← assess fail loaded evaluatedAt calendar regularTradingOpen
  recordAware evaluatedAt
  .ok assessment

end Atreides
