import Atreides.CustomerProtection.Common
import Atreides.Foundation.Date

/-!
# The challenger report

An engine's figures against a vendor's or a client's. Each engine figure is compared with the
vendor's figure of its name and each vendor figure without an engine figure is reported; a
comparison gets a candidate explanation. Unexplained variances of one group that cancel are
paired, in the order supplied. Only a match and a rounding leave the report at PASS.

## Main definitions

* `Figure`, `VendorFigure`, `ChallengerInputs` — what is compared
* `firstPass`, `pairOffsets`, `challenge` — the comparison and its explanations
* `ChallengerInputs.Corroborated` — every figure has a counterpart it agrees with

## Main results

* `pairOffsets_unpaired` — pairing changes explanations and nothing else
* `challenge_pass_iff` — a report passes exactly when the figures corroborate each other
* `challenge_reorders` — the verdict and the comparisons do not depend on the order supplied
-/

namespace Atreides

namespace CustomerProtection

open DecimalContext (ambient)

/-! ## Figures -/

/-- Candidate explanation for a difference. -/
inductive VarianceClass
  | notCompared
  | «match»
  | timing
  | rounding
  | classification
  | unknown
  deriving DecidableEq, Repr

def VarianceClass.value : VarianceClass → String
  | notCompared => "not_compared"
  | «match» => "match"
  | timing => "timing"
  | rounding => "rounding"
  | classification => "classification"
  | unknown => "unknown"

/-- The explanations that leave a report at PASS. -/
def VarianceClass.passing : VarianceClass → Bool
  | «match» | rounding => true
  | _ => false

/-- One named figure from an engine computation. -/
structure Figure where
  name : String
  group : String
  value : Option Money
  deriving DecidableEq

/-- The vendor's or client's figure for the same name. -/
structure VendorFigure where
  name : String
  value : Option Money
  asOf : Option Date := none
  deriving DecidableEq

/-- Which engine's result is challenged. -/
inductive ChallengerSubject
  | reserve
  | netCapital
  | possessionOrControl
  deriving DecidableEq, Repr

/-- The engine's figures, the vendor's, and the client's rounding tolerance. -/
structure ChallengerInputs where
  subject : ChallengerSubject
  engineAsOf : Date
  engineFigures : List Figure
  engineMissingRules : List String
  vendor : String
  vendorAsOf : Date
  vendorFigures : List VendorFigure
  roundingTolerance : Option NonNegativeMoney
  vendor_named : vendor ≠ "" := by decide

/-- One comparison with a candidate, rather than proven causal, explanation. -/
structure FigureVariance where
  name : String
  group : String
  engine : Option Money
  vendor : Option Money
  variance : Option Money
  classification : VarianceClass
  explanation : String
  deriving DecidableEq

/-- The comparison, figure by figure, and its disposition. -/
structure ChallengerReport where
  subject : ChallengerSubject
  asOf : Date
  vendor : String
  disposition : Disposition
  variances : List FigureVariance
  missingRules : List String
  missingInputs : List String
  breaches : List String
  reasons : List String

/-! ## Comparing -/

/-- The date a vendor's figure is as of. -/
def ChallengerInputs.dateOf (inputs : ChallengerInputs) (vendor : VendorFigure) : Date :=
  vendor.asOf.getD inputs.vendorAsOf

/-- How a variance between two figures is classified before offsets are looked for. -/
def classified (inputs : ChallengerInputs) (vendor : VendorFigure) (variance : Money) :
    Outcome (VarianceClass × String) :=
  if variance.isZero then .ok (.match, "no difference")
  else if inputs.dateOf vendor ≠ inputs.engineAsOf then
    .ok (.timing, "vendor figure as of " ++ (inputs.dateOf vendor).isoformat ++
      ", engine as of " ++ inputs.engineAsOf.isoformat)
  else
    match inputs.roundingTolerance with
    | none => .ok (.unknown, "not explained")
    | some tolerance => do
      let size ← variance.abs ambient
      .ok <| if size.le tolerance.amount then (.rounding, "within " ++ tolerance.amount.text)
        else (.unknown, "not explained")

/-- Compare an engine figure with the vendor's figure of its name, where there is one. -/
def firstPass (inputs : ChallengerInputs) (figure : Figure) (vendor : Option VendorFigure) :
    Outcome FigureVariance :=
  match figure.value, vendor, vendor.bind VendorFigure.value with
  | some engineValue, some vendorFigure, some vendorValue => do
    let variance ← vendorValue.sub ambient engineValue
    let (explained, explanation) ← classified inputs vendorFigure variance
    .ok ⟨figure.name, figure.group, figure.value, some vendorValue, some variance, explained,
      explanation⟩
  | engineValue, _, vendorValue =>
    .ok ⟨figure.name, figure.group, engineValue, vendorValue, none, .notCompared,
      "no " ++ (if engineValue = none then "engine" else "vendor") ++ " figure"⟩

/-- A vendor figure that the engine computes none of the name of. -/
def vendorOnly (vendor : VendorFigure) : FigureVariance :=
  ⟨vendor.name, "vendor_only", none, vendor.value, none, .notCompared,
    "the engine computes no figure of this name"⟩

/-! ## Offsets -/

/-- The comparisons while offsets are looked for, and the places that are paired. -/
structure Pairing where
  out : List FigureVariance
  paired : List ℕ := []

/-- Whether two variances cancel within what is allowed. -/
def cancels (allowed : FiniteDecimal) (first second : FigureVariance) : Outcome Bool :=
  match first.variance, second.variance with
  | some a, some b => do
    let total ← a.add ambient b
    let size ← total.abs ambient
    .ok (size.le allowed)
  | _, _ => .ok false

/-- The first place that offsets the given comparison. -/
def findOffset (allowed : FiniteDecimal) (state : Pairing) (first : FigureVariance) :
    List ℕ → Outcome (Option (ℕ × FigureVariance))
  | [] => .ok none
  | j :: rest =>
    match state.out[j]? with
    | none => findOffset allowed state first rest
    | some second =>
      if j ∈ state.paired ∨ second.classification ≠ .unknown ∨ second.group ≠ first.group then
        findOffset allowed state first rest
      else do
        if ← cancels allowed first second then .ok (some (j, second))
        else findOffset allowed state first rest

/-- A comparison explained by another's. -/
def FigureVariance.offsetBy (v other : FigureVariance) : FigureVariance :=
  { v with classification := .classification, explanation := "offset by " ++ other.name }

/-- Pair the comparison at a place with the first later one that offsets it. -/
def pairAt (allowed : FiniteDecimal) (state : Pairing) (i : ℕ) : Outcome Pairing :=
  match state.out[i]? with
  | none => .ok state
  | some first =>
    if first.classification ≠ .unknown ∨ i ∈ state.paired then .ok state
    else do
      let later := List.range' (i + 1) (state.out.length - (i + 1))
      match ← findOffset allowed state first later with
      | none => .ok state
      | some (j, second) =>
        .ok ⟨(state.out.set i (first.offsetBy second)).set j (second.offsetBy first),
          state.paired ++ [i, j]⟩

/-- Reclassify unexplained pairs of one group whose variances cancel, within the tolerance. -/
def pairOffsets (variances : List FigureVariance) (tolerance : Option NonNegativeMoney) :
    Outcome (List FigureVariance) := do
  let allowed := (tolerance.map NonNegativeMoney.amount).getD 0
  let state ← Outcome.foldSteps (pairAt allowed) ⟨variances, []⟩ (List.range variances.length)
  .ok state.out

/-! ## The report -/

namespace ChallengerInputs

variable (inputs : ChallengerInputs)

/-- The vendor's figures by name; a name that comes again hides its earlier figure. -/
def vendorByName : Dict String VendorFigure :=
  Dict.ofPairs (inputs.vendorFigures.map fun v => (v.name, v))

/-- The vendor's figures of names that the engine has none of. -/
def unmatched : List VendorFigure :=
  inputs.vendorFigures.filter fun v => v.name ∉ inputs.engineFigures.map Figure.name

/-- The comparisons before offsets are looked for. -/
def compared : Outcome (List FigureVariance) := do
  let engine ← Outcome.collect (fun f => firstPass inputs f (inputs.vendorByName.get? f.name))
    inputs.engineFigures
  .ok (engine ++ inputs.unmatched.map vendorOnly)

/-- What a report lacks. -/
def lacking (variances : List FigureVariance) : List String :=
  (variances.filter fun v => v.classification = .notCompared).map (fun v => "figure:" ++ v.name) ++
    if inputs.roundingTolerance = none then ["rounding_tolerance"] else []

end ChallengerInputs

/-- What a report finds. -/
def findingsOf (variances : List FigureVariance) : List String :=
  (variances.filter fun v => !v.classification.passing && v.classification ≠ .notCompared).map
    fun v => v.name ++ ": " ++ v.classification.value ++ " variance of " ++
      (v.variance.map FiniteDecimal.text).getD "None" ++ " (" ++ v.explanation ++ ")"

/-- Compare and suggest candidate explanations. -/
def challenge (inputs : ChallengerInputs) : Outcome ChallengerReport := do
  let compared ← inputs.compared
  let variances ← pairOffsets compared inputs.roundingTolerance
  let missingInputs := inputs.lacking variances
  let breaches := findingsOf variances
  .ok {
    subject := inputs.subject
    asOf := inputs.engineAsOf
    vendor := inputs.vendor
    disposition := CustomerProtection.decide inputs.engineMissingRules missingInputs breaches
    variances
    missingRules := inputs.engineMissingRules
    missingInputs
    breaches
    reasons := ["compared with " ++ inputs.vendor ++ " as of " ++ inputs.vendorAsOf.isoformat] }

/-! ## What pairing does -/

/-- A comparison without the explanation that pairing gave it. -/
def FigureVariance.unpaired (v : FigureVariance) : FigureVariance :=
  if v.classification = .classification then
    { v with classification := .unknown, explanation := "not explained" }
  else v

/-- An unexplained comparison says so. -/
def FigureVariance.Plain (v : FigureVariance) : Prop :=
  v.classification = .unknown → v.explanation = "not explained"

theorem FigureVariance.plain_offsetBy (v other : FigureVariance) : (v.offsetBy other).Plain := by
  intro h
  cases h

theorem FigureVariance.unpaired_of_unknown {v : FigureVariance}
    (h : v.classification = .unknown) : v.unpaired = v := by
  rw [unpaired, if_neg (by simp [h])]

theorem FigureVariance.unpaired_offsetBy {v : FigureVariance} (other : FigureVariance)
    (hunknown : v.classification = .unknown) (hplain : v.Plain) :
    (v.offsetBy other).unpaired = v := by
  have hexplanation := hplain hunknown
  obtain ⟨name, group, engine, vendor, variance, explained, explanation⟩ := v
  subst hunknown hexplanation
  rfl

theorem FigureVariance.passing_unpaired (v : FigureVariance) :
    v.unpaired.classification.passing = v.classification.passing := by
  rw [unpaired]
  split_ifs with h
  · rw [h]
    rfl
  · rfl

section Pairing

variable {allowed : FiniteDecimal} {state state' : Pairing}

/-- The place that is found offers an unpaired, unexplained comparison of the group. -/
theorem findOffset_eq_some {first second : FigureVariance} {j : ℕ} {places : List ℕ}
    (h : findOffset allowed state first places = .ok (some (j, second))) :
    j ∈ places ∧ state.out[j]? = some second ∧ j ∉ state.paired ∧
      second.classification = .unknown ∧ second.group = first.group ∧
      cancels allowed first second = .ok true := by
  induction places with
  | nil => cases h
  | cons place rest ih =>
    have hlater : findOffset allowed state first rest = .ok (some (j, second)) →
        j ∈ place :: rest ∧ state.out[j]? = some second ∧ j ∉ state.paired ∧
          second.classification = .unknown ∧ second.group = first.group ∧
          cancels allowed first second = .ok true :=
      fun hrest => ⟨List.mem_cons_of_mem place (ih hrest).1, (ih hrest).2⟩
    rw [findOffset] at h
    split at h
    · exact hlater h
    · next here hhere =>
      split_ifs at h with hskip
      · exact hlater h
      · obtain ⟨found, hfound, h⟩ := Outcome.bind_eq_ok.mp h
        split_ifs at h with hcancels
        · cases h
          subst hcancels
          push Not at hskip
          exact ⟨List.mem_cons_self, hhere, hskip.1, hskip.2.1, hskip.2.2, hfound⟩
        · exact hlater h

/-- What looking for an offset can do: nothing, or it explains two unexplained comparisons of one
group that cancel, each by the other. -/
theorem pairAt_cases {i : ℕ} (h : pairAt allowed state i = .ok state') :
    state' = state ∨ ∃ j first second, i < j ∧
      state.out[i]? = some first ∧ state.out[j]? = some second ∧
      i ∉ state.paired ∧ j ∉ state.paired ∧
      first.classification = .unknown ∧ second.classification = .unknown ∧
      second.group = first.group ∧ cancels allowed first second = .ok true ∧
      state' = ⟨(state.out.set i (first.offsetBy second)).set j (second.offsetBy first),
        state.paired ++ [i, j]⟩ := by
  rw [pairAt] at h
  split at h
  · cases h
    exact Or.inl rfl
  · next first hfirst =>
    split_ifs at h with hskip
    · cases h
      exact Or.inl rfl
    · obtain ⟨found, hfound, h⟩ := Outcome.bind_eq_ok.mp h
      rcases found with _ | ⟨j, second⟩
      · cases h
        exact Or.inl rfl
      · cases h
        push Not at hskip
        obtain ⟨hplace, hsecond, hj, hunknown, hgroup, hcancels⟩ := findOffset_eq_some hfound
        have hlater : i < j := (List.mem_range'_1.mp hplace).1
        exact Or.inr ⟨j, first, second, hlater, hfirst, hsecond, hskip.2, hj, hskip.1, hunknown,
          hgroup, hcancels, rfl⟩

/-- The comparisons but for the explanations that pairing gave are those looked at. -/
structure Pairing.Keeps (variances : List FigureVariance) (state : Pairing) : Prop where
  unpaired : state.out.map FigureVariance.unpaired = variances
  plain : ∀ v ∈ state.out, v.Plain

theorem Pairing.keeps_pairAt {variances : List FigureVariance} {i : ℕ}
    (hkeeps : state.Keeps variances) (h : pairAt allowed state i = .ok state') :
    state'.Keeps variances := by
  obtain rfl | ⟨j, first, second, hij, hfirst, hsecond, -, -, hunknown, hunknown', -, -, rfl⟩ :=
    pairAt_cases h
  · exact hkeeps
  · obtain ⟨hi, rfl⟩ := List.getElem?_eq_some_iff.mp hfirst
    obtain ⟨hj, rfl⟩ := List.getElem?_eq_some_iff.mp hsecond
    constructor
    · -- each of the two gets back the explanation it lost
      have hback := FigureVariance.unpaired_offsetBy state.out[j] hunknown
        (hkeeps.plain _ (List.getElem_mem hi))
      have hback' := FigureVariance.unpaired_offsetBy state.out[i] hunknown'
        (hkeeps.plain _ (List.getElem_mem hj))
      have hsame := FigureVariance.unpaired_of_unknown hunknown
      have hsame' := FigureVariance.unpaired_of_unknown hunknown'
      rw [List.map_set, List.map_set, hback, hback', ← hkeeps.unpaired]
      apply List.ext_getElem
      · simp
      · intro n _ _
        by_cases hnj : j = n
        · subst hnj
          simp [hsame']
        · by_cases hni : i = n
          · subst hni
            simp [List.getElem_set_ne hnj, hsame]
          · simp [List.getElem_set_ne hnj, List.getElem_set_ne hni]
    · intro v hv
      rcases List.mem_or_eq_of_mem_set hv with hv | rfl
      · rcases List.mem_or_eq_of_mem_set hv with hv | rfl
        · exact hkeeps.plain v hv
        · exact FigureVariance.plain_offsetBy _ _
      · exact FigureVariance.plain_offsetBy _ _

/-- Pairing changes explanations and nothing else. -/
theorem pairOffsets_unpaired {variances out : List FigureVariance}
    {tolerance : Option NonNegativeMoney}
    (hfresh : ∀ v ∈ variances, v.classification ≠ .classification ∧ v.Plain)
    (h : pairOffsets variances tolerance = .ok out) :
    out.map FigureVariance.unpaired = variances := by
  obtain ⟨state, hstate, h⟩ := Outcome.bind_eq_ok.mp h
  cases h
  have hstart : Pairing.Keeps variances ⟨variances, []⟩ := by
    constructor
    · have hid : ∀ v ∈ variances, v.unpaired = id v := by
        intro v hv
        simp [FigureVariance.unpaired, (hfresh v hv).1]
      rw [List.map_congr_left hid, List.map_id]
    · exact fun v hv => (hfresh v hv).2
  exact (Outcome.foldSteps_preserves (Pairing.Keeps variances)
    (fun _ _ _ hkeeps hstep => Pairing.keeps_pairAt hkeeps hstep) hstart hstate).unpaired

end Pairing

/-! ## What a comparison finds -/

namespace ChallengerInputs

variable {inputs : ChallengerInputs}

variable (inputs) in
/-- Two figures agree: both have a value, and the difference, as decimal arithmetic gives it, is
zero, or within the stated tolerance of figures as of one date. -/
def Agree (figure : Figure) (vendor : VendorFigure) : Prop :=
  ∃ x ∈ figure.value, ∃ y ∈ vendor.value, ∃ d, y.sub ambient x = .ok d ∧
    (d.value = 0 ∨ inputs.dateOf vendor = inputs.engineAsOf ∧
      ∃ tolerance ∈ inputs.roundingTolerance, |d.value| ≤ tolerance.amount.value)

theorem not_agree {figure : Figure} {vendor : VendorFigure}
    (h : figure.value = none ∨ vendor.value = none) : ¬ inputs.Agree figure vendor := by
  rintro ⟨x, hx, y, hy, -⟩
  rw [Option.mem_def] at hx hy
  simp [hx, hy] at h

/-- A variance is explained as no difference or as rounding exactly within the tolerance. -/
theorem passing_classified {vendor : VendorFigure} {variance x y : Money}
    {found : VarianceClass × String} (hvariance : y.sub ambient x = .ok variance)
    (h : classified inputs vendor variance = .ok found) :
    found.1.passing = true ↔ variance.value = 0 ∨ inputs.dateOf vendor = inputs.engineAsOf ∧
      ∃ tolerance ∈ inputs.roundingTolerance, |variance.value| ≤ tolerance.amount.value := by
  rw [classified] at h
  split_ifs at h with hzero hdate
  · cases h
    simp [VarianceClass.passing, FiniteDecimal.isZero_iff.mp hzero]
  · cases h
    rw [FiniteDecimal.isZero_iff] at hzero
    simp [VarianceClass.passing, hzero, hdate]
  · rw [FiniteDecimal.isZero_iff] at hzero
    rw [not_not] at hdate
    rcases htolerance : inputs.roundingTolerance with _ | tolerance
    · rw [htolerance] at h
      cases h
      simp [VarianceClass.passing, hzero]
    · rw [htolerance] at h
      obtain ⟨size, hsize, h⟩ := Outcome.bind_eq_ok.mp h
      -- the variance came out of the arithmetic, so its absolute value is not rounded again
      obtain ⟨size', hsize', hvalue⟩ := FiniteDecimal.abs_exact_iff.mpr
        (FiniteDecimal.represents_of_sub hvariance).abs
      rw [hsize] at hsize'
      cases hsize'
      cases h
      by_cases hle : size.le tolerance.amount = true
      · have hwithin : |variance.value| ≤ tolerance.amount.value :=
          hvalue ▸ FiniteDecimal.le_iff.mp hle
        simp [hle, hdate, hwithin, VarianceClass.passing]
      · have hbeyond : ¬ |variance.value| ≤ tolerance.amount.value := by
          rwa [FiniteDecimal.le_iff, hvalue] at hle
        simp [hle, hzero, hbeyond, VarianceClass.passing]

theorem fresh_classified {vendor : VendorFigure} {variance : Money}
    {found : VarianceClass × String} (h : classified inputs vendor variance = .ok found) :
    found.1 ≠ .classification ∧ (found.1 = .unknown → found.2 = "not explained") := by
  rw [classified] at h
  split_ifs at h
  · cases h
    simp
  · cases h
    simp
  · split at h
    · cases h
      simp
    · obtain ⟨size, -, h⟩ := Outcome.bind_eq_ok.mp h
      cases h
      split_ifs <;> simp

theorem plain_vendorOnly (vendor : VendorFigure) :
    (vendorOnly vendor).classification ≠ .classification ∧ (vendorOnly vendor).Plain := by
  constructor
  · simp [vendorOnly]
  · intro h
    cases h

/-- What comparing one engine figure gives: its own figure and the vendor's, a passing
explanation exactly where they agree, and none that pairing gives. -/
theorem firstPass_eq_ok {figure : Figure} {vendor : Option VendorFigure} {v : FigureVariance}
    (h : firstPass inputs figure vendor = .ok v) :
    v.name = figure.name ∧ v.engine = figure.value ∧
      v.vendor = vendor.bind VendorFigure.value ∧
      (v.classification.passing = true ↔ ∃ w ∈ vendor, inputs.Agree figure w) ∧
      v.classification ≠ .classification ∧ v.Plain := by
  rcases hengine : figure.value with _ | x
  · simp only [firstPass, hengine, Except.ok.injEq] at h
    subst h
    simp [not_agree (Or.inl hengine), VarianceClass.passing, FigureVariance.Plain]
  rcases vendor with _ | w
  · simp only [firstPass, hengine, Except.ok.injEq] at h
    subst h
    simp [VarianceClass.passing, FigureVariance.Plain]
  rcases hvendor : w.value with _ | y
  · simp only [firstPass, hengine, Option.bind_some, hvendor, Except.ok.injEq] at h
    subst h
    simp [hvendor, not_agree (Or.inr hvendor), VarianceClass.passing, FigureVariance.Plain]
  · simp only [firstPass, hengine, Option.bind_some, hvendor, Outcome.bind_eq_ok] at h
    obtain ⟨d, hd, found, hfound, h⟩ := h
    cases h
    refine ⟨rfl, rfl, by simp [hvendor], ?_, fresh_classified hfound⟩
    rw [passing_classified hd hfound]
    simp [Agree, hengine, hvendor, hd]

variable (inputs) in
/-- No two vendor figures of one name differ. -/
def Unambiguous : Prop :=
  ∀ v ∈ inputs.vendorFigures, ∀ w ∈ inputs.vendorFigures, v.name = w.name → v = w

/-- Without ambiguity, the vendor's figure of a name is the one supplied. -/
theorem vendorByName_eq_some_iff (hone : inputs.Unambiguous) {name : String}
    {v : VendorFigure} :
    inputs.vendorByName.get? name = some v ↔ v ∈ inputs.vendorFigures ∧ v.name = name := by
  rw [vendorByName, Dict.get?_ofPairs_iff]
  · simp only [List.mem_map, Prod.mk.injEq]
    constructor
    · rintro ⟨w, hw, rfl, rfl⟩
      exact ⟨hw, rfl⟩
    · rintro ⟨hv, rfl⟩
      exact ⟨v, hv, rfl, rfl⟩
  · intro p hp q hq hname
    obtain ⟨v, hv, rfl⟩ := List.mem_map.mp hp
    obtain ⟨w, hw, rfl⟩ := List.mem_map.mp hq
    rw [hone v hv w hw hname]

/-! ## When a report passes -/

variable (inputs) in
/-- A tolerance is stated, no rule is missing, and every figure on either side has a counterpart
of its name that it agrees with. -/
structure Corroborated : Prop where
  tolerance_stated : inputs.roundingTolerance ≠ none
  no_missing_rule : inputs.engineMissingRules = []
  engine_agrees : ∀ f ∈ inputs.engineFigures, ∃ v ∈ inputs.vendorFigures,
    v.name = f.name ∧ inputs.Agree f v
  vendor_agrees : ∀ v ∈ inputs.vendorFigures, ∃ f ∈ inputs.engineFigures,
    v.name = f.name ∧ inputs.Agree f v

theorem compared_eq_ok {variances : List FigureVariance} :
    inputs.compared = .ok variances ↔
      ∃ engine, Outcome.collect (fun f => firstPass inputs f (inputs.vendorByName.get? f.name))
          inputs.engineFigures = .ok engine ∧
        variances = engine ++ inputs.unmatched.map vendorOnly := by
  rw [compared, Outcome.bind_eq_ok]
  constructor
  · rintro ⟨engine, hengine, h⟩
    cases h
    exact ⟨engine, hengine, rfl⟩
  · rintro ⟨engine, hengine, rfl⟩
    exact ⟨engine, hengine, rfl⟩

theorem fresh_compared {variances : List FigureVariance} (h : inputs.compared = .ok variances) :
    ∀ v ∈ variances, v.classification ≠ .classification ∧ v.Plain := by
  obtain ⟨engine, hengine, rfl⟩ := compared_eq_ok.mp h
  intro v hv
  rcases List.mem_append.mp hv with hv | hv
  · obtain ⟨f, -, hf⟩ := Outcome.exists_of_mem_collect hengine hv
    exact (firstPass_eq_ok hf).2.2.2.2
  · obtain ⟨w, -, rfl⟩ := List.mem_map.mp hv
    exact plain_vendorOnly w

/-- Every comparison passes exactly when every engine figure agrees with the vendor's figure of
its name and no vendor figure is left. -/
theorem forall_passing_compared {variances : List FigureVariance}
    (h : inputs.compared = .ok variances) :
    (∀ v ∈ variances, v.classification.passing = true) ↔
      (∀ f ∈ inputs.engineFigures, ∃ w ∈ inputs.vendorByName.get? f.name, inputs.Agree f w) ∧
        ∀ v ∈ inputs.vendorFigures, v.name ∈ inputs.engineFigures.map Figure.name := by
  obtain ⟨engine, hengine, rfl⟩ := compared_eq_ok.mp h
  rw [List.forall_mem_append]
  refine and_congr ⟨fun hall f hf => ?_, fun hall v hv => ?_⟩ ⟨fun hall v hv => ?_, fun hall v hv => ?_⟩
  · obtain ⟨v, hv, hfirst⟩ := Outcome.mem_of_collect hengine hf
    exact (firstPass_eq_ok hfirst).2.2.2.1.mp (hall v hv)
  · obtain ⟨f, hf, hfirst⟩ := Outcome.exists_of_mem_collect hengine hv
    exact (firstPass_eq_ok hfirst).2.2.2.1.mpr (hall f hf)
  · -- one that is left is not compared, and does not pass
    by_contra hname
    have hleft : v ∈ inputs.unmatched := List.mem_filter.mpr ⟨hv, by simpa using hname⟩
    exact absurd (hall _ (List.mem_map_of_mem hleft)) (by simp [vendorOnly, VarianceClass.passing])
  · obtain ⟨w, hw, rfl⟩ := List.mem_map.mp hv
    obtain ⟨hw, hname⟩ := List.mem_filter.mp hw
    exact absurd (hall w hw) (of_decide_eq_true hname)

/-- Without ambiguity, every comparison passes exactly when each figure has a counterpart. -/
theorem forall_passing_iff {variances : List FigureVariance} (hone : inputs.Unambiguous)
    (h : inputs.compared = .ok variances) :
    (∀ v ∈ variances, v.classification.passing = true) ↔
      (∀ f ∈ inputs.engineFigures, ∃ v ∈ inputs.vendorFigures,
        v.name = f.name ∧ inputs.Agree f v) ∧
      ∀ v ∈ inputs.vendorFigures, ∃ f ∈ inputs.engineFigures,
        v.name = f.name ∧ inputs.Agree f v := by
  rw [forall_passing_compared h]
  constructor
  · rintro ⟨hengine, hvendor⟩
    constructor
    · intro f hf
      obtain ⟨w, hw, hagree⟩ := hengine f hf
      obtain ⟨hw, hname⟩ := (vendorByName_eq_some_iff hone).mp hw
      exact ⟨w, hw, hname, hagree⟩
    · intro v hv
      obtain ⟨f, hf, hname⟩ := List.mem_map.mp (hvendor v hv)
      obtain ⟨w, hw, hagree⟩ := hengine f hf
      obtain ⟨hw, hwname⟩ := (vendorByName_eq_some_iff hone).mp hw
      -- the figure found under the name is the one supplied
      have hsame : w = v := hone w hw v hv (hwname.trans hname)
      exact ⟨f, hf, hname.symm, hsame ▸ hagree⟩
  · rintro ⟨hengine, hvendor⟩
    constructor
    · intro f hf
      obtain ⟨v, hv, hname, hagree⟩ := hengine f hf
      exact ⟨v, (vendorByName_eq_some_iff hone).mpr ⟨hv, hname⟩, hagree⟩
    · intro v hv
      obtain ⟨f, hf, hname, -⟩ := hvendor v hv
      exact List.mem_map.mpr ⟨f, hf, hname.symm⟩

/-! ## The verdict -/

theorem lacking_eq_nil {variances : List FigureVariance} : inputs.lacking variances = [] ↔
    (∀ v ∈ variances, v.classification ≠ .notCompared) ∧ inputs.roundingTolerance ≠ none := by
  simp [lacking, List.filter_eq_nil_iff]

theorem findingsOf_eq_nil {variances : List FigureVariance} : findingsOf variances = [] ↔
    ∀ v ∈ variances, v.classification.passing = true ∨ v.classification = .notCompared := by
  simp only [findingsOf, List.map_eq_nil_iff, List.filter_eq_nil_iff, Bool.and_eq_true,
    Bool.not_eq_true', decide_eq_true_eq, not_and_or, Bool.not_eq_false, not_not]

/-- Nothing lacking and nothing found is a stated tolerance and comparisons that all pass. -/
theorem lacking_and_findingsOf {variances : List FigureVariance} :
    inputs.lacking variances = [] ∧ findingsOf variances = [] ↔
      inputs.roundingTolerance ≠ none ∧ ∀ v ∈ variances, v.classification.passing = true := by
  rw [lacking_eq_nil, findingsOf_eq_nil]
  constructor
  · rintro ⟨⟨hcompared, htolerance⟩, hfound⟩
    exact ⟨htolerance, fun v hv => (hfound v hv).resolve_right (hcompared v hv)⟩
  · rintro ⟨htolerance, hpassing⟩
    refine ⟨⟨fun v hv hnot => ?_, htolerance⟩, fun v hv => Or.inl (hpassing v hv)⟩
    have h := hpassing v hv
    rw [hnot] at h
    cases h

/-- What a report is made of: the comparisons, and their explanations after pairing. The verdict
depends on the comparisons alone. -/
theorem challenge_eq_ok {report : ChallengerReport} (h : challenge inputs = .ok report) :
    ∃ compared, inputs.compared = .ok compared ∧
      report.variances.map FigureVariance.unpaired = compared ∧
      report.disposition =
        if inputs.engineMissingRules ≠ [] then .indeterminate
        else if inputs.roundingTolerance ≠ none ∧
            ∀ v ∈ compared, v.classification.passing = true then .pass
        else .hold := by
  obtain ⟨compared, hcompared, h⟩ := Outcome.bind_eq_ok.mp h
  obtain ⟨out, hout, h⟩ := Outcome.bind_eq_ok.mp h
  cases h
  have hunpaired := pairOffsets_unpaired (fresh_compared hcompared) hout
  refine ⟨compared, hcompared, hunpaired, ?_⟩
  have hpassing : (∀ v ∈ compared, v.classification.passing = true) ↔
      ∀ v ∈ out, v.classification.passing = true := by
    rw [← hunpaired, List.forall_mem_map]
    simp only [FigureVariance.passing_unpaired]
  have hverdict := @lacking_and_findingsOf inputs out
  rw [CustomerProtection.decide]
  simp only [hpassing, ← hverdict, ne_eq, ← not_and_or]
  split_ifs <;> rfl

theorem pass_iff {report : ChallengerReport} (hone : inputs.Unambiguous)
    (h : challenge inputs = .ok report) : report.disposition = .pass ↔ inputs.Corroborated := by
  obtain ⟨compared, hcompared, -, hdisposition⟩ := challenge_eq_ok h
  have hall := forall_passing_iff hone hcompared
  rw [hdisposition]
  constructor
  · intro hpass
    split_ifs at hpass with hrules hrest
    obtain ⟨hengine, hvendor⟩ := hall.mp hrest.2
    exact ⟨hrest.1, not_not.mp hrules, hengine, hvendor⟩
  · intro hc
    have hpassing := hall.mpr ⟨hc.engine_agrees, hc.vendor_agrees⟩
    rw [if_neg (not_not.mpr hc.no_missing_rule), if_pos ⟨hc.tolerance_stated, hpassing⟩]

/-! ## Another order -/

variable (inputs) in
/-- The same inputs with their figures in another order. -/
def reordered (engineFigures : List Figure) (vendorFigures : List VendorFigure) :
    ChallengerInputs :=
  { inputs with engineFigures, vendorFigures }

section Reordered

variable {engineFigures : List Figure} {vendorFigures : List VendorFigure}
  (hengine : engineFigures.Perm inputs.engineFigures)
  (hvendor : vendorFigures.Perm inputs.vendorFigures)

include hvendor in
theorem unambiguous_reordered (hone : inputs.Unambiguous) :
    (inputs.reordered engineFigures vendorFigures).Unambiguous :=
  fun v hv w hw => hone v (hvendor.mem_iff.mp hv) w (hvendor.mem_iff.mp hw)

include hvendor in
theorem vendorByName_reordered (hone : inputs.Unambiguous) (name : String) :
    (inputs.reordered engineFigures vendorFigures).vendorByName.get? name =
      inputs.vendorByName.get? name := by
  apply Option.ext
  intro v
  rw [vendorByName_eq_some_iff (unambiguous_reordered hvendor hone),
    vendorByName_eq_some_iff hone]
  exact and_congr_left' hvendor.mem_iff

include hengine hvendor in
theorem unmatched_reordered :
    (inputs.reordered engineFigures vendorFigures).unmatched.Perm inputs.unmatched := by
  have hnames : ∀ v : VendorFigure, v.name ∈ engineFigures.map Figure.name ↔
      v.name ∈ inputs.engineFigures.map Figure.name :=
    fun v => (hengine.map Figure.name).mem_iff
  simp only [unmatched, reordered, hnames]
  exact hvendor.filter _

include hengine hvendor in
/-- Figures in another order are compared alike. -/
theorem compared_reordered (hone : inputs.Unambiguous) {variances variances' : List FigureVariance}
    (h : inputs.compared = .ok variances)
    (h' : (inputs.reordered engineFigures vendorFigures).compared = .ok variances') :
    variances'.Perm variances := by
  obtain ⟨engine, hcollect, rfl⟩ := compared_eq_ok.mp h
  obtain ⟨engine', hcollect', rfl⟩ := compared_eq_ok.mp h'
  have hcalls : ∀ f ∈ engineFigures,
      firstPass (inputs.reordered engineFigures vendorFigures) f
          ((inputs.reordered engineFigures vendorFigures).vendorByName.get? f.name) =
        firstPass inputs f (inputs.vendorByName.get? f.name) := by
    intro f _
    rw [vendorByName_reordered hvendor hone]
    rfl
  obtain ⟨engine'', hcollect'', hperm⟩ := Outcome.collect_perm hengine
    ((Outcome.collect_congr hcalls).symm.trans hcollect')
  rw [hcollect] at hcollect''
  cases hcollect''
  exact hperm.append ((unmatched_reordered hengine hvendor).map vendorOnly)

end Reordered

/-! ## What a report says -/

@[simp] theorem unpaired_name (v : FigureVariance) : v.unpaired.name = v.name := by
  rw [FigureVariance.unpaired]
  split_ifs <;> rfl

@[simp] theorem unpaired_engine (v : FigureVariance) : v.unpaired.engine = v.engine := by
  rw [FigureVariance.unpaired]
  split_ifs <;> rfl

@[simp] theorem unpaired_vendor (v : FigureVariance) : v.unpaired.vendor = v.vendor := by
  rw [FigureVariance.unpaired]
  split_ifs <;> rfl

/-- Without ambiguity, every figure on either side is compared. -/
theorem examined_compared {variances : List FigureVariance} (hone : inputs.Unambiguous)
    (h : inputs.compared = .ok variances) :
    (∀ f ∈ inputs.engineFigures, ∃ v ∈ variances, v.name = f.name ∧ v.engine = f.value) ∧
      ∀ w ∈ inputs.vendorFigures, ∃ v ∈ variances, v.name = w.name ∧ v.vendor = w.value := by
  obtain ⟨engine, hengine, rfl⟩ := compared_eq_ok.mp h
  constructor
  · intro f hf
    obtain ⟨v, hv, hfirst⟩ := Outcome.mem_of_collect hengine hf
    obtain ⟨hname, hvalue, -⟩ := firstPass_eq_ok hfirst
    exact ⟨v, List.mem_append_left _ hv, hname, hvalue⟩
  · intro w hw
    by_cases hmatched : w.name ∈ inputs.engineFigures.map Figure.name
    · obtain ⟨f, hf, hname⟩ := List.mem_map.mp hmatched
      obtain ⟨v, hv, hfirst⟩ := Outcome.mem_of_collect hengine hf
      rw [(vendorByName_eq_some_iff hone).mpr ⟨hw, hname.symm⟩] at hfirst
      obtain ⟨hvname, -, hvalue, -⟩ := firstPass_eq_ok hfirst
      exact ⟨v, List.mem_append_left _ hv, hvname.trans hname, hvalue⟩
    · have hleft : w ∈ inputs.unmatched := List.mem_filter.mpr ⟨hw, by simpa using hmatched⟩
      exact ⟨vendorOnly w, List.mem_append_right _ (List.mem_map_of_mem hleft), rfl, rfl⟩

theorem examined {report : ChallengerReport} (hone : inputs.Unambiguous)
    (h : challenge inputs = .ok report) :
    (∀ f ∈ inputs.engineFigures, ∃ v ∈ report.variances, v.name = f.name ∧ v.engine = f.value) ∧
      ∀ w ∈ inputs.vendorFigures, ∃ v ∈ report.variances,
        v.name = w.name ∧ v.vendor = w.value := by
  obtain ⟨compared, hcompared, hunpaired, -⟩ := challenge_eq_ok h
  obtain ⟨hengine, hvendor⟩ := examined_compared hone hcompared
  rw [← hunpaired] at hengine hvendor
  constructor
  · intro f hf
    obtain ⟨u, hu, hname, hvalue⟩ := hengine f hf
    obtain ⟨v, hv, rfl⟩ := List.mem_map.mp hu
    exact ⟨v, hv, by simpa using hname, by simpa using hvalue⟩
  · intro w hw
    obtain ⟨u, hu, hname, hvalue⟩ := hvendor w hw
    obtain ⟨v, hv, rfl⟩ := List.mem_map.mp hu
    exact ⟨v, hv, by simpa using hname, by simpa using hvalue⟩

/-- The verdict and the comparisons of unambiguous inputs do not depend on the order in which
the figures are supplied. -/
theorem challenge_reorders {engineFigures : List Figure} {vendorFigures : List VendorFigure}
    {report report' : ChallengerReport} (hone : inputs.Unambiguous)
    (h : challenge inputs = .ok report) (hengine : engineFigures.Perm inputs.engineFigures)
    (hvendor : vendorFigures.Perm inputs.vendorFigures)
    (h' : challenge (inputs.reordered engineFigures vendorFigures) = .ok report') :
    report'.disposition = report.disposition ∧
      (report'.variances.map FigureVariance.unpaired).Perm
        (report.variances.map FigureVariance.unpaired) := by
  obtain ⟨compared, hcompared, hunpaired, hdisposition⟩ := challenge_eq_ok h
  obtain ⟨compared', hcompared', hunpaired', hdisposition'⟩ := challenge_eq_ok h'
  have hperm := compared_reordered hengine hvendor hone hcompared hcompared'
  have hall : (∀ v ∈ compared', v.classification.passing = true) ↔
      ∀ v ∈ compared, v.classification.passing = true := by
    simp only [hperm.mem_iff]
  constructor
  · rw [hdisposition, hdisposition']
    simp only [hall, reordered]
  · rw [hunpaired, hunpaired']
    exact hperm

end ChallengerInputs

/-- Where the vendor supplies no two figures of one name that differ, a report passes exactly
when a tolerance is stated, no rule is missing and every figure on either side has a counterpart
it agrees with. Every figure is examined, and neither the verdict nor the comparisons, but for
the explanations that pairing gives, depend on the order supplied. -/
theorem challenge_corroborates (inputs : ChallengerInputs) (report : ChallengerReport)
    (hone : inputs.Unambiguous) (h : challenge inputs = .ok report) :
    (report.disposition = .pass ↔ inputs.Corroborated) ∧
    (∀ f ∈ inputs.engineFigures, ∃ v ∈ report.variances, v.name = f.name ∧ v.engine = f.value) ∧
    (∀ w ∈ inputs.vendorFigures, ∃ v ∈ report.variances, v.name = w.name ∧ v.vendor = w.value) ∧
    ∀ engineFigures vendorFigures report', engineFigures.Perm inputs.engineFigures →
      vendorFigures.Perm inputs.vendorFigures →
      challenge (inputs.reordered engineFigures vendorFigures) = .ok report' →
      report'.disposition = report.disposition ∧
        (report'.variances.map FigureVariance.unpaired).Perm
          (report.variances.map FigureVariance.unpaired) := by
  obtain ⟨hengine, hvendor⟩ := ChallengerInputs.examined hone h
  exact ⟨ChallengerInputs.pass_iff hone h, hengine, hvendor, fun _ _ _ hperm hperm' h' =>
    ChallengerInputs.challenge_reorders hone h hperm hperm' h'⟩

/-- Net capital figures of one day, with a tolerance of one. -/
def marchFigures (engineFigures : List Figure) (vendorFigures : List VendorFigure) :
    ChallengerInputs where
  subject := .netCapital
  engineAsOf := Date.of 2026 3 2
  engineFigures
  engineMissingRules := []
  vendor := "Vendor"
  vendorAsOf := Date.of 2026 3 2
  vendorFigures
  roundingTolerance := some { amount := ⟨false, 100, -2⟩ }

theorem challenge_corroborates_march :
    (marchFigures [⟨"net_worth", "net_capital", some 500⟩, ⟨"haircuts", "net_capital", some 20⟩]
      [⟨"haircuts", some 21, none⟩, ⟨"net_worth", some 500, none⟩]).Corroborated := by
  obtain ⟨report, hreport, hpass⟩ := Outcome.map_eq_ok.mp
    (show ChallengerReport.disposition <$> challenge (marchFigures
        [⟨"net_worth", "net_capital", some 500⟩, ⟨"haircuts", "net_capital", some 20⟩]
        [⟨"haircuts", some 21, none⟩, ⟨"net_worth", some 500, none⟩]) = .ok .pass by
      decide +kernel)
  have hone : (marchFigures
      [⟨"net_worth", "net_capital", some 500⟩, ⟨"haircuts", "net_capital", some 20⟩]
      [⟨"haircuts", some 21, none⟩, ⟨"net_worth", some 500, none⟩]).Unambiguous := by
    unfold ChallengerInputs.Unambiguous
    decide
  exact (challenge_corroborates _ report hone hreport).1.mp hpass

/-- Three engine figures of zero in one group, and a vendor that differs on each. -/
def threeOffsets (engineNames : List String) : ChallengerInputs :=
  marchFigures (engineNames.map fun name => ⟨name, "net_capital", some 0⟩)
    [⟨"haircuts", some 10, none⟩, ⟨"net_worth", some ⟨true, 10, 0⟩, none⟩,
      ⟨"net_capital", some ⟨true, 10, 0⟩, none⟩]

/-- The explanation a report gives a figure. -/
def explanationOf (name : String) (inputs : ChallengerInputs) : Option VarianceClass :=
  match challenge inputs with
  | .ok report => (report.variances.find? (·.name = name)).map FigureVariance.classification
  | .error _ => none

/-- Which figures are paired depends on the order supplied, and a difference that is beyond the
tolerance in its twenty-ninth digit passes as rounding. -/
theorem explanation_depends_on_order :
    explanationOf "net_worth" (threeOffsets ["haircuts", "net_worth", "net_capital"]) =
        some .classification ∧
      explanationOf "net_worth" (threeOffsets ["haircuts", "net_capital", "net_worth"]) =
        some .unknown ∧
      explanationOf "net_worth" (marchFigures [⟨"net_worth", "net_capital", some 0⟩]
        [⟨"net_worth", some ⟨false, 10 ^ 28 + 1, -28⟩, none⟩]) = some .rounding ∧
      FiniteDecimal.lt 1 ⟨false, 10 ^ 28 + 1, -28⟩ = true := by
  decide +kernel

end CustomerProtection

end Atreides
