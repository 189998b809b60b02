import Atreides.Clearing.Repo
import Atreides.Foundation.Decimal.Sums

/-!
# Netting conserves

Every obligation of a netted request stands in one net position, which has its member, security,
date and currency. Where the ambient arithmetic holds the sums of a security's amounts on a date,
the position there is their exact total, and the order of the obligations does not matter.

The legs of a repo net to no collateral and to the close money less the start money. The close
money is whole cents, so what a repo nets to is its interest rounded half up.

## Main definitions

* `NetsSoundly` — net positions account for obligations
* `SumsExactly` — the ambient arithmetic holds the sums of a position
* `PairNets` — the legs of a repo cancel but for the interest

## Main results

* `sum_positions` — net positions total what the obligations total
* `net_reordered` — the order of the obligations does not matter
* `pairNets_of_produce` — the legs of a repo that closes
* `netting_conserves` — the whole of it, for a request that establishes
-/

namespace Atreides

namespace Clearing

open DecimalContext (ambient)

/-! ## One position -/

section Position

variable {key : PositionKey} {members members' : List NovatedObligation}
  {n : NetSettlementObligation}

/-- The quantities of some obligations. -/
def quantities (members : List NovatedObligation) : List ℚ :=
  members.map fun o => o.signedQuantity.value

/-- The settlement amounts of some obligations. -/
def settlementAmounts (members : List NovatedObligation) : List ℚ :=
  members.map fun o => o.signedSettlementAmount.value

theorem netPosition_eq_ok (h : netPosition key members = .ok n) :
    FiniteDecimal.sum ambient 0 (members.map fun o => o.signedQuantity) = .ok n.netQuantity ∧
      FiniteDecimal.sum ambient 0 (members.map fun o => o.signedSettlementAmount) =
        .ok n.netSettlementAmount ∧
      n.key = key ∧ (∃ first, members.head? = some first ∧
        n.settlementCurrency = first.settlementCurrency) ∧
      n.sourceObligationIds = sorted (members.map fun o => o.obligationId) ∧
      n.sourceTradeIds = sorted (members.flatMap fun o => o.tradeIds) := by
  obtain ⟨quantity, hquantity, h⟩ := Outcome.bind_eq_ok.mp h
  obtain ⟨amount, hamount, h⟩ := Outcome.bind_eq_ok.mp h
  cases hfirst : members.head? with
  | none =>
    rw [hfirst] at h
    cases h
  | some first =>
    rw [hfirst] at h
    cases h
    exact ⟨hquantity, hamount, rfl, ⟨first, rfl, rfl⟩, rfl, rfl⟩

/-- A total that the ambient arithmetic holds in any order is exact. -/
theorem sum_value {xs : List FiniteDecimal} {total : FiniteDecimal}
    (h : FiniteDecimal.sum ambient 0 xs = .ok total)
    (hexact : ExactSums ambient (xs.map FiniteDecimal.value)) :
    total.value = (xs.map FiniteDecimal.value).sum := by
  obtain ⟨total', htotal', hvalue⟩ :=
    @FiniteDecimal.sum_exact ambient xs 0 [] FiniteDecimal.value_zero hexact
  cases h.symm.trans htotal'
  exact hvalue

theorem netQuantity_value (h : netPosition key members = .ok n)
    (hexact : ExactSums ambient (quantities members)) :
    n.netQuantity.value = (quantities members).sum := by
  have hvalues : quantities members =
      (members.map fun o => o.signedQuantity).map FiniteDecimal.value := by
    rw [List.map_map]
    rfl
  rw [hvalues] at hexact ⊢
  exact sum_value (netPosition_eq_ok h).1 hexact

theorem netSettlementAmount_value (h : netPosition key members = .ok n)
    (hexact : ExactSums ambient (settlementAmounts members)) :
    n.netSettlementAmount.value = (settlementAmounts members).sum := by
  have hvalues : settlementAmounts members =
      (members.map fun o => o.signedSettlementAmount).map FiniteDecimal.value := by
    rw [List.map_map]
    rfl
  rw [hvalues] at hexact ⊢
  exact sum_value (netPosition_eq_ok h).2.1 hexact

/-- Two net positions that differ in nothing but how their amounts are written. -/
structure SamePosition (a b : NetSettlementObligation) : Prop where
  key : a.key = b.key
  quantity : a.netQuantity.value = b.netQuantity.value
  amount : a.netSettlementAmount.value = b.netSettlementAmount.value
  currency : a.settlementCurrency = b.settlementCurrency
  obligations : a.sourceObligationIds = b.sourceObligationIds
  trades : a.sourceTradeIds = b.sourceTradeIds

/-- The obligations of a position in another order make the same position. -/
theorem netPosition_reordered (hperm : members'.Perm members)
    (hquantities : ExactSums ambient (quantities members))
    (hamounts : ExactSums ambient (settlementAmounts members))
    (hcurrency : ∀ a ∈ members, ∀ b ∈ members, a.settlementCurrency = b.settlementCurrency)
    (h : netPosition key members = .ok n) :
    ∃ n', netPosition key members' = .ok n' ∧ SamePosition n n' := by
  obtain ⟨-, -, hkey, ⟨first, hfirst, hfirstCurrency⟩, hids, htrades⟩ := netPosition_eq_ok h
  have hquantities' : ExactSums ambient (quantities members') :=
    hquantities.perm (hperm.map _)
  have hamounts' : ExactSums ambient (settlementAmounts members') := hamounts.perm (hperm.map _)
  -- both sums return, and there is a first obligation
  obtain ⟨quantity, hquantity, -⟩ := @FiniteDecimal.sum_exact ambient
    (members'.map fun o => o.signedQuantity) 0 [] FiniteDecimal.value_zero (by
      rw [List.map_map]
      exact hquantities')
  obtain ⟨amount, hamount, -⟩ := @FiniteDecimal.sum_exact ambient
    (members'.map fun o => o.signedSettlementAmount) 0 [] FiniteDecimal.value_zero (by
      rw [List.map_map]
      exact hamounts')
  have hmem : first ∈ members := List.mem_of_head? hfirst
  cases hfirst' : members'.head? with
  | none =>
    rw [List.head?_eq_none_iff] at hfirst'
    rw [hfirst', List.nil_perm] at hperm
    rw [hperm] at hmem
    cases hmem
  | some first' =>
    have hmem' : first' ∈ members := hperm.subset (List.mem_of_head? hfirst')
    have hposition : netPosition key members' = .ok
        { memberId := key.memberId
          cusip := key.cusip
          settlementDate := key.settlementDate
          netQuantity := quantity
          netSettlementAmount := amount
          settlementCurrency := first'.settlementCurrency
          sourceObligationIds := sorted (members'.map fun o => o.obligationId)
          sourceTradeIds := sorted (members'.flatMap fun o => o.tradeIds) } := by
      rw [netPosition, hquantity, hamount, hfirst']
      rfl
    refine ⟨_, hposition, hkey, ?_, ?_, ?_, ?_, ?_⟩
    · rw [netQuantity_value h hquantities, netQuantity_value hposition hquantities']
      exact (hperm.map _).sum_eq.symm
    · rw [netSettlementAmount_value h hamounts, netSettlementAmount_value hposition hamounts']
      exact (hperm.map _).sum_eq.symm
    · rw [hfirstCurrency]
      exact hcurrency first hmem first' hmem'
    · rw [hids]
      exact sorted_congr (hperm.map _).symm
    · rw [htrades]
      exact sorted_congr (hperm.flatMap fun _ _ => List.Perm.refl _).symm

end Position

/-! ## All positions -/

/-- The obligations under one key. -/
def membersOf (key : PositionKey) (obligations : List NovatedObligation) :
    List NovatedObligation := obligations.filter fun o => o.key = key

section Positions

variable {obligations order : List NovatedObligation} {nets : List NetSettlementObligation}

/-- The keys of the positions, in order. -/
def positionKeys (obligations : List NovatedObligation) : List PositionKey :=
  sortedSet (Dict.groupBy NovatedObligation.key obligations).keys

theorem mem_positionKeys {key : PositionKey} :
    key ∈ positionKeys obligations ↔ ∃ o ∈ obligations, o.key = key := by
  rw [positionKeys, mem_sortedSet, Dict.mem_keys_groupBy]

theorem net_eq (obligations : List NovatedObligation) :
    net obligations = Outcome.collect (fun key => netPosition key (membersOf key obligations))
      (positionKeys obligations) := by
  simp only [net, Dict.getD_groupBy]
  rfl

/-- Each net position is that of the obligations under its key. -/
theorem position_of_net (h : net obligations = .ok nets) {n : NetSettlementObligation}
    (hn : n ∈ nets) : n.key ∈ positionKeys obligations ∧
      netPosition n.key (membersOf n.key obligations) = .ok n := by
  rw [net_eq] at h
  obtain ⟨key, hkey, hposition⟩ := Outcome.exists_of_mem_collect h hn
  have hsame := (netPosition_eq_ok hposition).2.2.1
  rw [hsame]
  exact ⟨hkey, hposition⟩

/-- The positions have the keys of the obligations, each once. -/
theorem keys_of_net (h : net obligations = .ok nets) :
    nets.map NetSettlementObligation.key = positionKeys obligations := by
  rw [net_eq] at h
  have hrelated := Outcome.collect_forall h
  generalize positionKeys obligations = keys at hrelated
  clear h
  induction hrelated with
  | nil => rfl
  | cons hposition _ ih =>
    rw [List.map_cons, ih, (netPosition_eq_ok hposition).2.2.1]

/-- Every obligation has its position, and two positions of one key are one. -/
theorem exists_position (h : net obligations = .ok nets) {o : NovatedObligation}
    (ho : o ∈ obligations) : ∃ n ∈ nets, n.key = o.key := by
  have hkey : o.key ∈ nets.map NetSettlementObligation.key := by
    rw [keys_of_net h, mem_positionKeys]
    exact ⟨o, ho, rfl⟩
  obtain ⟨n, hn, hsame⟩ := List.mem_map.mp hkey
  exact ⟨n, hn, hsame⟩

theorem position_unique (h : net obligations = .ok nets) {n n' : NetSettlementObligation}
    (hn : n ∈ nets) (hn' : n' ∈ nets) (hkey : n.key = n'.key) : n = n' := by
  have hposition := (position_of_net h hn).2
  rw [hkey, (position_of_net h hn').2] at hposition
  exact (Except.ok.inj hposition).symm

/-- The obligations a position names are those under its key. -/
theorem mem_sources_iff (h : net obligations = .ok nets) {n : NetSettlementObligation}
    (hn : n ∈ nets) {id : String} :
    id ∈ n.sourceObligationIds ↔ ∃ o ∈ obligations, o.key = n.key ∧ o.obligationId = id := by
  have hids := (netPosition_eq_ok (position_of_net h hn).2).2.2.2.2.1
  rw [hids, mem_sorted, List.mem_map]
  simp only [membersOf, List.mem_filter, decide_eq_true_eq, and_assoc]

/-- The positions of some keys total what the obligations under them total, where each of them
is the total of its own. -/
theorem sum_positions (h : net obligations = .ok nets) (p : PositionKey → Bool)
    {w : NetSettlementObligation → ℚ} {v : NovatedObligation → ℚ}
    (hw : ∀ n ∈ nets, p n.key → w n = ((membersOf n.key obligations).map v).sum) :
    ((nets.filter fun n => p n.key).map w).sum =
      ((obligations.filter fun o => p o.key).map v).sum := by
  have hnodup : ((positionKeys obligations).filter p).Nodup :=
    (sortedSet_nodup _).filter p
  have hcovers : ∀ o ∈ obligations.filter fun o => p o.key,
      o.key ∈ (positionKeys obligations).filter p := by
    intro o ho
    obtain ⟨hmem, hp⟩ := List.mem_filter.mp ho
    exact List.mem_filter.mpr ⟨mem_positionKeys.mpr ⟨o, hmem, rfl⟩, hp⟩
  -- the obligations under the keys, one key after the other
  have hgroups : (((positionKeys obligations).filter p).flatMap fun key =>
      membersOf key obligations).Perm (obligations.filter fun o => p o.key) := by
    refine perm_groups hnodup hcovers fun key hkey => List.Perm.of_eq ?_
    rw [membersOf, List.filter_filter]
    refine List.filter_congr fun o _ => ?_
    by_cases ho : o.key = key
    · simp [ho, (List.mem_filter.mp hkey).2]
    · simp [ho]
  calc ((nets.filter fun n => p n.key).map w).sum
      = ((nets.filter fun n => p n.key).map fun n =>
          ((membersOf n.key obligations).map v).sum).sum := by
        congr 1
        refine List.map_congr_left fun n hn => ?_
        obtain ⟨hmem, hp⟩ := List.mem_filter.mp hn
        exact hw n hmem hp
    _ = (((positionKeys obligations).filter p).map fun key =>
          ((membersOf key obligations).map v).sum).sum := by
        rw [← keys_of_net h, List.filter_map, List.map_map]
        rfl
    _ = ((((positionKeys obligations).filter p).flatMap fun key =>
          membersOf key obligations).map v).sum := by
        rw [List.map_flatMap, List.flatMap_def, List.sum_flatten, List.map_map]
        rfl
    _ = ((obligations.filter fun o => p o.key).map v).sum := (hgroups.map v).sum_eq

/-- The ambient arithmetic holds the sums of the amounts of one security on one date. -/
def SumsExactly (obligations : List NovatedObligation) (cusip : String) (date : Date) : Prop :=
  ExactSums ambient
      (quantities (obligations.filter fun o => o.cusip = cusip ∧ o.settlementDate = date)) ∧
    ExactSums ambient
      (settlementAmounts (obligations.filter fun o => o.cusip = cusip ∧ o.settlementDate = date))

theorem membersOf_sublist (key : PositionKey) (obligations : List NovatedObligation) :
    (membersOf key obligations).Sublist
      (obligations.filter fun o => o.cusip = key.cusip ∧ o.settlementDate = key.settlementDate) := by
  rw [membersOf]
  refine List.monotone_filter_right obligations fun o ho => ?_
  have hkey : o.key = key := by simpa using ho
  simp [← hkey, NovatedObligation.key]

theorem exactSums_quantities {key : PositionKey}
    (h : SumsExactly obligations key.cusip key.settlementDate) :
    ExactSums ambient (quantities (membersOf key obligations)) :=
  h.1.sublist ((membersOf_sublist key obligations).map _)

theorem exactSums_settlementAmounts {key : PositionKey}
    (h : SumsExactly obligations key.cusip key.settlementDate) :
    ExactSums ambient (settlementAmounts (membersOf key obligations)) :=
  h.2.sublist ((membersOf_sublist key obligations).map _)

/-- The obligations in another order make the same positions. -/
theorem net_reordered (hperm : order.Perm obligations)
    (hexact : ∀ cusip date, SumsExactly obligations cusip date)
    (hcurrency : ∀ a ∈ obligations, ∀ b ∈ obligations, a.key = b.key →
      a.settlementCurrency = b.settlementCurrency)
    (h : net obligations = .ok nets) :
    ∃ nets', net order = .ok nets' ∧ List.Forall₂ SamePosition nets nets' := by
  have hkeys : positionKeys order = positionKeys obligations := by
    refine sortedSet_congr fun key => ?_
    simp only [Dict.mem_keys_groupBy, hperm.mem_iff]
  rw [net_eq] at h ⊢
  rw [hkeys]
  refine Outcome.collect_related (fun key _ n hposition => ?_) h
  refine netPosition_reordered (hperm.filter _) (exactSums_quantities (hexact _ _))
    (exactSums_settlementAmounts (hexact _ _)) ?_ hposition
  intro a ha b hb
  obtain ⟨hamem, hakey⟩ := List.mem_filter.mp ha
  obtain ⟨hbmem, hbkey⟩ := List.mem_filter.mp hb
  refine hcurrency a hamem b hbmem ?_
  rw [of_decide_eq_true hakey, of_decide_eq_true hbkey]

end Positions

/-! ## Requests that establish -/

/-- The net positions account for the obligations. -/
structure NetsSoundly (obligations : List NovatedObligation)
    (nets : List NetSettlementObligation) : Prop where
  /-- No two positions have one member, security and date. -/
  distinct : (nets.map NetSettlementObligation.key).Nodup
  /-- Every obligation stands in one position. -/
  once : ∀ o ∈ obligations, ∃! n, n ∈ nets ∧ o.obligationId ∈ n.sourceObligationIds
  /-- A position has the member, security, date and currency of its obligations. -/
  unmixed : ∀ n ∈ nets, ∀ o ∈ obligations, o.obligationId ∈ n.sourceObligationIds →
    o.key = n.key ∧ o.settlementCurrency = n.settlementCurrency
  /-- The positions of some securities and dates total what their obligations total. -/
  conserves : ∀ p : String → Date → Bool,
    (∀ cusip date, p cusip date → SumsExactly obligations cusip date) →
      ((nets.filter fun n => p n.cusip n.settlementDate).map fun n => n.netQuantity.value).sum =
          (quantities (obligations.filter fun o => p o.cusip o.settlementDate)).sum ∧
        ((nets.filter fun n => p n.cusip n.settlementDate).map fun n =>
            n.netSettlementAmount.value).sum =
          (settlementAmounts (obligations.filter fun o => p o.cusip o.settlementDate)).sum

section Requests

variable {obligations order : List NovatedObligation} {nets : List NetSettlementObligation}

theorem mixesCurrencies_eq_false_iff : mixesCurrencies obligations = false ↔
    ∀ a ∈ obligations, ∀ b ∈ obligations, a.key = b.key →
      a.settlementCurrency = b.settlementCurrency := by
  have hone : mixesCurrencies obligations = false ↔ ∀ o ∈ obligations,
      ((membersOf o.key obligations).map fun o => o.settlementCurrency).dedup.length = 1 := by
    rw [mixesCurrencies, List.any_eq_false]
    simp only [Dict.mem_values_groupBy, decide_eq_true_eq, not_not]
    constructor
    · intro h o ho
      exact h _ ⟨o, ho, rfl⟩
    · intro h members hmembers
      obtain ⟨o, ho, rfl⟩ := hmembers
      exact h o ho
  rw [hone]
  constructor
  · intro h a ha b hb hkey
    -- both currencies are the one currency of the group
    obtain ⟨currency, hcurrency⟩ := List.length_eq_one_iff.mp (h a ha)
    have hall : ∀ o ∈ membersOf a.key obligations, o.settlementCurrency = currency := by
      intro o ho
      have hmem : o.settlementCurrency ∈
          ((membersOf a.key obligations).map fun o => o.settlementCurrency).dedup :=
        List.mem_dedup.mpr (List.mem_map_of_mem ho)
      rwa [hcurrency, List.mem_singleton] at hmem
    rw [hall a (List.mem_filter.mpr ⟨ha, by simp⟩),
      hall b (List.mem_filter.mpr ⟨hb, by simp [hkey]⟩)]
  · intro h o ho
    have hperm : ((membersOf o.key obligations).map fun o => o.settlementCurrency).dedup.Perm
        [o.settlementCurrency] := by
      refine (List.perm_ext_iff_of_nodup (List.nodup_dedup _) (List.nodup_singleton _)).mpr
        fun currency => ?_
      rw [List.mem_dedup, List.mem_map, List.mem_singleton]
      constructor
      · intro hmem
        obtain ⟨other, hother, hcurrency⟩ := hmem
        obtain ⟨hin, hsame⟩ := List.mem_filter.mp hother
        rw [← hcurrency]
        exact h other hin o ho (of_decide_eq_true hsame)
      · intro hcurrency
        exact ⟨o, List.mem_filter.mpr ⟨ho, by simp⟩, hcurrency.symm⟩
    exact hperm.length_eq

/-- What netting does with obligations that have their own identifiers and do not mix
currencies. -/
theorem netsSoundly_of_net (hids : (obligations.map fun o => o.obligationId).Nodup)
    (hcurrency : mixesCurrencies obligations = false) (h : net obligations = .ok nets) :
    NetsSoundly obligations nets := by
  have hsame : ∀ a ∈ obligations, ∀ b ∈ obligations, a.obligationId = b.obligationId → a = b := by
    intro a ha b hb hid
    exact List.inj_on_of_nodup_map hids ha hb hid
  -- a position that names an obligation is under its key
  have hkeyOf : ∀ n ∈ nets, ∀ o ∈ obligations, o.obligationId ∈ n.sourceObligationIds →
      o.key = n.key := by
    intro n hn o ho hmem
    obtain ⟨other, hother, hkey, hid⟩ := (mem_sources_iff h hn).mp hmem
    rw [← hsame other hother o ho hid]
    exact hkey
  refine ⟨?_, fun o ho => ?_, fun n hn o ho hmem => ⟨hkeyOf n hn o ho hmem, ?_⟩,
    fun p hexact => ⟨?_, ?_⟩⟩
  · rw [keys_of_net h]
    exact sortedSet_nodup _
  · obtain ⟨n, hn, hkey⟩ := exists_position h ho
    refine ⟨n, ⟨hn, (mem_sources_iff h hn).mpr ⟨o, ho, hkey.symm, rfl⟩⟩, fun n' hn' => ?_⟩
    refine position_unique h hn'.1 hn ?_
    rw [← hkeyOf n' hn'.1 o ho hn'.2, hkey]
  · obtain ⟨first, hfirst, hfirstCurrency⟩ :=
      (netPosition_eq_ok (position_of_net h hn).2).2.2.2.1
    obtain ⟨hfirstMem, hfirstKey⟩ := List.mem_filter.mp (List.mem_of_head? hfirst)
    rw [hfirstCurrency]
    refine mixesCurrencies_eq_false_iff.mp hcurrency o ho first hfirstMem ?_
    rw [hkeyOf n hn o ho hmem]
    exact (of_decide_eq_true hfirstKey).symm
  · exact sum_positions h (fun key => p key.cusip key.settlementDate) fun n hn hp =>
      netQuantity_value (position_of_net h hn).2 (exactSums_quantities (hexact _ _ hp))
  · exact sum_positions h (fun key => p key.cusip key.settlementDate) fun n hn hp =>
      netSettlementAmount_value (position_of_net h hn).2 (exactSums_settlementAmounts (hexact _ _ hp))

section Produced

variable {kernel : Kernel} {canonicalBytes : FiccGsdNettingDocument → Bytes}
  {request order : FiccGsdNettingRequest} {header : FiccGsdResultHeader} {payload : Bytes}

/-- What a request that establishes has passed. -/
theorem established_iff :
    produceFiccGsdResult kernel canonicalBytes request = .ok (.established header payload) ↔
      request.clearingAgency ≠ .cmeSecuritiesClearing ∧
        ∃ arrangement, request.access = .established arrangement ∧
          sortedSet (request.obligations.map fun o => o.memberId) =
            [arrangement.clearingMemberId] ∧
          mixesCurrencies request.obligations = false ∧
          ∃ document, nettingDocument request arrangement = .ok document ∧
            payload = canonicalBytes document ∧
            header = ⟨kernel.digestBytes payload, request.clearingAgency⟩ := by
  rw [produceFiccGsdResult]
  by_cases hagency : request.clearingAgency = .cmeSecuritiesClearing
  · rw [if_pos hagency]
    simp [hagency]
  · rw [if_neg hagency]
    cases haccess : request.access with
    | indeterminate reason => simp
    | established arrangement =>
      dsimp only
      split_ifs with hmembers hcurrency
      · simp [hmembers]
      · simp [hcurrency]
      · have hone := not_not.mp hmembers
        have hsame : mixesCurrencies request.obligations = false := by simpa using hcurrency
        rw [Outcome.bind_eq_ok]
        constructor
        · intro h
          obtain ⟨document, hdocument, h⟩ := h
          cases h
          exact ⟨hagency, arrangement, rfl, hone, hsame, document, hdocument, rfl, rfl⟩
        · intro h
          obtain ⟨-, arrangement', harrangement, -, -, document, hdocument, rfl, rfl⟩ := h
          cases harrangement
          exact ⟨document, hdocument, rfl⟩

theorem nettingDocument_eq_ok {arrangement : AccessArrangement}
    {document : FiccGsdNettingDocument} (h : nettingDocument request arrangement = .ok document) :
    (∃ facts, request.facts = .ok facts) ∧
      net request.obligations = .ok document.netSettlementObligations ∧
      document.novatedObligations = request.obligations ∧
      document.observedMemberId = arrangement.clearingMemberId := by
  obtain ⟨facts, hfacts, h⟩ := Outcome.bind_eq_ok.mp h
  obtain ⟨nets, hnets, h⟩ := Outcome.bind_eq_ok.mp h
  cases h
  exact ⟨⟨facts, hfacts⟩, hnets, rfl, rfl⟩

theorem nodup_obligationIds (request : FiccGsdNettingRequest) :
    (request.obligations.map fun o => o.obligationId).Nodup := by
  have hchecked := request.checked
  rw [FiccGsdNettingFields.check] at hchecked
  obtain ⟨_, _, hchecked⟩ := Outcome.bind_eq_ok.mp hchecked
  obtain ⟨_, hunique, _⟩ := Outcome.bind_eq_ok.mp hchecked
  exact not_not.mp (Outcome.refuseIf_eq_ok.mp hunique)

/-- The request with its obligations in another order. -/
structure Reorders (order request : FiccGsdNettingRequest) : Prop where
  obligations : order.obligations.Perm request.obligations
  clearingAgency : order.clearingAgency = request.clearingAgency
  access : order.access = request.access
  acceptance : order.clearingAcceptanceEvidenceId = request.clearingAcceptanceEvidenceId
  netting : order.nettingEvidenceId = request.nettingEvidenceId
  instruction : order.settlementInstructionEvidenceId = request.settlementInstructionEvidenceId
  finality : order.settlementFinalityEvidenceId = request.settlementFinalityEvidenceId

theorem facts_reordered (h : Reorders order request) : order.facts = request.facts := by
  have hids : sortedSet (order.obligations.map fun o => o.novationEvidenceId) =
      sortedSet (request.obligations.map fun o => o.novationEvidenceId) :=
    sortedSet_congr fun id => (h.obligations.map _).mem_iff
  simp only [FiccGsdNettingRequest.facts, hids, h.acceptance, h.netting, h.instruction,
    h.finality]

/-- The obligations in another order establish as well, with the same positions. -/
theorem established_reordered (hreorders : Reorders order request)
    (hexact : ∀ cusip date, SumsExactly request.obligations cusip date)
    (h : produceFiccGsdResult kernel canonicalBytes request = .ok (.established header payload)) :
    ∃ arrangement document document',
      nettingDocument request arrangement = .ok document ∧ payload = canonicalBytes document ∧
        produceFiccGsdResult kernel canonicalBytes order =
          .ok (.established ⟨kernel.digestBytes (canonicalBytes document'), order.clearingAgency⟩
            (canonicalBytes document')) ∧
        List.Forall₂ SamePosition document.netSettlementObligations
          document'.netSettlementObligations := by
  obtain ⟨hagency, arrangement, haccess, hmembers, hcurrency, document, hdocument, hpayload, -⟩ :=
    established_iff.mp h
  obtain ⟨⟨facts, hfacts⟩, hnets, -, -⟩ := nettingDocument_eq_ok hdocument
  have hsame := mixesCurrencies_eq_false_iff.mp hcurrency
  obtain ⟨nets, hnets', hpositions⟩ :=
    net_reordered hreorders.obligations hexact hsame hnets
  have hmembers' : sortedSet (order.obligations.map fun o => o.memberId) =
      [arrangement.clearingMemberId] := by
    rw [← hmembers]
    exact sortedSet_congr fun id => (hreorders.obligations.map _).mem_iff
  have hcurrency' : mixesCurrencies order.obligations = false := by
    rw [mixesCurrencies_eq_false_iff]
    intro a ha b hb
    exact hsame a (hreorders.obligations.subset ha) b (hreorders.obligations.subset hb)
  let document' : FiccGsdNettingDocument :=
    { clearingAgency := order.clearingAgency
      observedMemberId := arrangement.clearingMemberId
      accessPath := arrangement.path.value
      ruleSetVersion := arrangement.ruleSetVersion
      processingCalendarId := arrangement.processingCalendarId
      facts
      novatedObligations := order.obligations
      netSettlementObligations := nets }
  have hdocument' : nettingDocument order arrangement = .ok document' := by
    rw [nettingDocument, facts_reordered hreorders, hfacts, hnets']
    rfl
  refine ⟨arrangement, document, document', hdocument, hpayload, established_iff.mpr ?_,
    hpositions⟩
  refine ⟨?_, arrangement, ?_, hmembers', hcurrency', document', hdocument', rfl, rfl⟩
  · rw [hreorders.clearingAgency]
    exact hagency
  · rw [hreorders.access]
    exact haccess

end Produced

end Requests

/-! ## The legs of a repo -/

/-- The legs of a repo that closes: the start and the close. Their par cancels where the ambient
arithmetic holds it, and their money comes to the close money, which is whole cents, less the
start money. -/
structure PairNets (trade : RepoTradeFields) (close : Date)
    (legs : List NovatedObligation) : Prop where
  dates : legs.map (fun o => o.settlementDate) = [trade.startDate, close]
  security : ∀ o ∈ legs, o.cusip = trade.cusip.getD ""
  par : (quantities legs).sum = 0 ↔ ambient.Represents trade.collateralPar.value
  money : ∃ money, trade.moneyAt close = .ok money ∧
    ((settlementAmounts legs).sum = halfUp (10 ^ (-2 : ℤ)) money.value - trade.startMoney.value ↔
      ambient.Represents trade.startMoney.value)

section Legs

variable {trade : RepoTradeFields} {close : Date} {document : RepoDocument}
  {legs : List NovatedObligation}

theorem create_eq_ok {fields : NovatedObligationFields} {o : NovatedObligation}
    (h : NovatedObligation.create fields = .ok o) : o.toNovatedObligationFields = fields := by
  rw [NovatedObligation.create] at h
  split at h
  · cases h
  · cases h
    rfl

/-- Unary minus is exact for what the context holds, and for nothing else. -/
theorem neg_value_iff {d r : FiniteDecimal} (h : FiniteDecimal.neg ambient d = .ok r) :
    r.value = -d.value ↔ ambient.Represents d.value := by
  have hvalue : (if d.coefficient = 0 then d.copyAbs else d.copyNegate).value = -d.value := by
    split_ifs with hzero
    · rw [FiniteDecimal.value_copyAbs, FiniteDecimal.value_eq_zero_iff.mpr hzero]
      simp
    · exact FiniteDecimal.value_copyNegate d
  rw [← DecimalContext.represents_neg_iff, ← hvalue, ← DecimalContext.fix_exact_iff]
  constructor
  · intro hexact
    exact ⟨r, h, hexact⟩
  · intro hexact
    obtain ⟨r', hr', hexact⟩ := hexact
    cases h.symm.trans hr'
    exact hexact

/-- The legs that a document of the delivery-versus-payment service hands to netting. -/
theorem legs_of_document {agency : ClearingAgency} {arrangement : AccessArrangement}
    {settledLegs : List RepoLeg} (hclose : trade.closeDate = some close)
    (hdocument : repoDocument agency arrangement trade settledLegs = .ok document)
    (hlegs : Outcome.collect (legForNetting document) document.legs = .ok legs) :
    PairNets trade close legs := by
  obtain ⟨closeMoney, hmoney, h⟩ := Outcome.bind_eq_ok.mp hdocument
  obtain ⟨repoLegs', hrepoLegs, h⟩ := Outcome.bind_eq_ok.mp h
  cases h
  -- the close money
  simp only [RepoTradeFields.closeMoney, hclose] at hmoney
  obtain ⟨unrounded, hunrounded, hmoney⟩ := Outcome.bind_eq_ok.mp hmoney
  obtain ⟨rounded, hrounded, rfl⟩ := Outcome.map_eq_ok.mp hmoney
  -- the two legs
  obtain ⟨first, hfirst, hrest⟩ := Outcome.bind_eq_ok.mp hrepoLegs
  obtain ⟨second, hsecond, hrest⟩ := Outcome.bind_eq_ok.mp hrest
  cases hrest
  obtain ⟨startMoney, hstartMoney, hfirst⟩ := Outcome.bind_eq_ok.mp hfirst
  obtain ⟨_, _, hfirst⟩ := Outcome.bind_eq_ok.mp hfirst
  obtain ⟨closePar, hclosePar, hsecond⟩ := Outcome.bind_eq_ok.mp hsecond
  obtain ⟨_, _, hsecond⟩ := Outcome.bind_eq_ok.mp hsecond
  obtain ⟨_, _, hsecond⟩ := Outcome.bind_eq_ok.mp hsecond
  cases hfirst
  cases hsecond
  -- as obligations
  rw [Outcome.collect_cons_eq_ok] at hlegs
  obtain ⟨a, others, ha, hothers, rfl⟩ := hlegs
  rw [Outcome.collect_cons_eq_ok] at hothers
  obtain ⟨b, none, hb, hnone, rfl⟩ := hothers
  cases hnone
  simp only [legForNetting, hclose] at ha hb
  have hstart := create_eq_ok ha
  have hfinish := create_eq_ok hb
  refine ⟨?_, ?_, ?_, unrounded, hunrounded, ?_⟩
  · simp [hstart, hfinish]
  · simp [hstart, hfinish]
  · rw [← neg_value_iff hclosePar]
    simp only [quantities, List.map_cons, List.map_nil, hstart, hfinish, List.sum_cons,
      List.sum_nil, add_zero]
    constructor <;> intro h <;> linarith
  · rw [← neg_value_iff hstartMoney, ← FiniteDecimal.quantizeHalfUp_value hrounded]
    simp only [settlementAmounts, List.map_cons, List.map_nil, hstart, hfinish, List.sum_cons,
      List.sum_nil, add_zero]
    constructor <;> intro h <;> linarith

/-- The legs of a repo that closes, as a result hands them to netting. -/
theorem pairNets_of_produce {kernel : Kernel} {codec : RepoCodec} {calendar : MarketCalendar}
    {trade : RepoTrade calendar} {access : AccessDetermination} {agency : ClearingAgency}
    {settledLegs : List RepoLeg} {result : RepoResult} (hclose : trade.closeDate = some close)
    (hreads : ∀ arrangement document, access = .established arrangement →
      repoDocument agency arrangement trade.toRepoTradeFields settledLegs = .ok document →
        codec.ReadsBack document)
    (h : produceRepoResult kernel codec trade access agency settledLegs = .ok result)
    (hlegs : dvpLegsForNetting codec result = .ok legs) (hsome : legs ≠ []) :
    PairNets trade.toRepoTradeFields close legs := by
  -- a result that is not established hands nothing over
  have hnone : ∀ reason, result ≠ repoIndeterminate reason := by
    intro reason heq
    rw [heq, dvpLegsForNetting] at hlegs
    cases hlegs
    exact hsome rfl
  have hcases : ∀ reason, (.ok (repoIndeterminate reason) : Outcome RepoResult) ≠ .ok result := by
    intro reason heq
    exact hnone reason (Except.ok.inj heq).symm
  rw [produceRepoResult.eq_def] at h
  split_ifs at h with hagency
  · exact absurd h (hcases _)
  · cases haccess : access with
    | indeterminate reason =>
      rw [haccess] at h
      exact absurd h (hcases _)
    | established arrangement =>
      rw [haccess] at h
      dsimp only at h
      split_ifs at h
      · exact absurd h (hcases _)
      · exact absurd h (hcases _)
      · obtain ⟨document, hdocument, h⟩ := Outcome.bind_eq_ok.mp h
        cases h
        simp only [dvpLegsForNetting] at hlegs
        rw [hreads arrangement document haccess hdocument, Outcome.ok_bind] at hlegs
        split_ifs at hlegs
        · obtain ⟨_, _, hlegs⟩ := Outcome.bind_eq_ok.mp hlegs
          exact legs_of_document hclose hdocument hlegs
        · cases hlegs
          exact absurd rfl hsome

/-- The obligations of the legs of a repo and of others, by security. The repo leaves no par in
the positions of a security, and its money leaves the interest. -/
theorem winds_down {rest obligations : List NovatedObligation} {nets : List NetSettlementObligation}
    (hperm : obligations.Perm (legs ++ rest)) (hpair : PairNets trade close legs)
    (hsound : NetsSoundly obligations nets)
    (hexact : ∀ cusip date, SumsExactly obligations cusip date)
    (hpar : ambient.Represents trade.collateralPar.value) (cusip : String) :
    ((nets.filter fun n => n.cusip = cusip).map fun n => n.netQuantity.value).sum =
        (quantities (rest.filter fun o => o.cusip = cusip)).sum ∧
      ((nets.filter fun n => n.cusip = cusip).map fun n => n.netSettlementAmount.value).sum =
        (if trade.cusip.getD "" = cusip then (settlementAmounts legs).sum else 0) +
          (settlementAmounts (rest.filter fun o => o.cusip = cusip)).sum := by
  obtain ⟨hquantities, hamounts⟩ :=
    hsound.conserves (fun c _ => c = cusip) fun c date _ => hexact c date
  have hfiltered : (obligations.filter fun o => o.cusip = cusip).Perm
      (legs.filter (fun o => o.cusip = cusip) ++ rest.filter fun o => o.cusip = cusip) := by
    rw [← List.filter_append]
    exact hperm.filter _
  -- the legs have one security
  have hlegs : legs.filter (fun o => o.cusip = cusip) =
      if trade.cusip.getD "" = cusip then legs else [] := by
    split_ifs with hcusip
    · rw [List.filter_eq_self]
      intro o ho
      simp [hpair.security o ho, hcusip]
    · rw [List.filter_eq_nil_iff]
      intro o ho
      simp [hpair.security o ho, hcusip]
  have hsum : ∀ v : NovatedObligation → ℚ,
      ((obligations.filter fun o => o.cusip = cusip).map v).sum =
        (if trade.cusip.getD "" = cusip then (legs.map v).sum else 0) +
          ((rest.filter fun o => o.cusip = cusip).map v).sum := by
    intro v
    rw [(hfiltered.map v).sum_eq, List.map_append, List.sum_append, hlegs]
    split_ifs <;> simp
  constructor
  · refine hquantities.trans ((hsum _).trans ?_)
    have hzero := hpair.par.mpr hpar
    rw [quantities] at hzero
    rw [hzero, ite_self, zero_add]
    rfl
  · exact hamounts.trans (hsum _)

end Legs

/-- A request that establishes has nets that account for its obligations, in whatever order they
come, all of the member whose seat it is observed from; and a repo that closes among its
obligations leaves no par and its interest. -/
theorem netting_conserves (kernel : Kernel) (canonicalBytes : FiccGsdNettingDocument → Bytes)
    (request : FiccGsdNettingRequest) {header : FiccGsdResultHeader} {payload : Bytes}
    (h : produceFiccGsdResult kernel canonicalBytes request = .ok (.established header payload)) :
    ∃ document, payload = canonicalBytes document ∧
      document.novatedObligations = request.obligations ∧
      NetsSoundly request.obligations document.netSettlementObligations ∧
      (∀ n ∈ document.netSettlementObligations, n.memberId = document.observedMemberId) ∧
      ((∀ cusip date, SumsExactly request.obligations cusip date) →
        (∀ order, Reorders order request → ∃ document',
          produceFiccGsdResult kernel canonicalBytes order =
              .ok (.established
                ⟨kernel.digestBytes (canonicalBytes document'), order.clearingAgency⟩
                (canonicalBytes document')) ∧
            List.Forall₂ SamePosition document.netSettlementObligations
              document'.netSettlementObligations) ∧
        ∀ (codec : RepoCodec) (calendar : MarketCalendar) (trade : RepoTrade calendar)
          (close : Date) (access : AccessDetermination) (agency : ClearingAgency)
          (settledLegs : List RepoLeg) (result : RepoResult) (legs rest : List NovatedObligation),
          trade.closeDate = some close →
            (∀ arrangement document, access = .established arrangement →
              repoDocument agency arrangement trade.toRepoTradeFields settledLegs = .ok document →
                codec.ReadsBack document) →
              produceRepoResult kernel codec trade access agency settledLegs = .ok result →
                dvpLegsForNetting codec result = .ok legs → legs ≠ [] →
                  request.obligations.Perm (legs ++ rest) →
                    PairNets trade.toRepoTradeFields close legs ∧
                      (ambient.Represents trade.collateralPar.value → ∀ cusip,
                        ((document.netSettlementObligations.filter fun n =>
                            n.cusip = cusip).map fun n => n.netQuantity.value).sum =
                          (quantities (rest.filter fun o => o.cusip = cusip)).sum ∧
                        ((document.netSettlementObligations.filter fun n =>
                            n.cusip = cusip).map fun n => n.netSettlementAmount.value).sum =
                          (if trade.cusip.getD "" = cusip then (settlementAmounts legs).sum
                            else 0) +
                            (settlementAmounts (rest.filter fun o => o.cusip = cusip)).sum)) := by
  obtain ⟨-, arrangement, -, hmembers, hcurrency, document, hdocument, hpayload, -⟩ :=
    established_iff.mp h
  obtain ⟨-, hnets, hnovated, hobserved⟩ := nettingDocument_eq_ok hdocument
  have hsound := netsSoundly_of_net (nodup_obligationIds request) hcurrency hnets
  refine ⟨document, hpayload, hnovated, hsound, fun n hn => ?_, fun hexact => ⟨?_, ?_⟩⟩
  · -- the one member of all obligations is that of the position
    obtain ⟨o, ho, hkey⟩ := mem_positionKeys.mp (position_of_net hnets hn).1
    have hmember : o.memberId ∈ [arrangement.clearingMemberId] := by
      rw [← hmembers, mem_sortedSet]
      exact List.mem_map_of_mem ho
    rw [hobserved, ← List.mem_singleton.mp hmember]
    exact (congrArg PositionKey.memberId hkey).symm
  · intro order hreorders
    obtain ⟨arrangement', document₁, document', hdocument₁, -, hestablished, hsame⟩ :=
      established_reordered hreorders hexact h
    obtain ⟨-, hnets₁, -, -⟩ := nettingDocument_eq_ok hdocument₁
    rw [Except.ok.inj (hnets.symm.trans hnets₁)]
    exact ⟨document', hestablished, hsame⟩
  · intro codec calendar trade close access agency settledLegs result legs rest hclose hreads
      hproduce hlegs hsome hperm
    have hpair := pairNets_of_produce hclose hreads hproduce hlegs hsome
    exact ⟨hpair, fun hpar cusip => winds_down hperm hpair hsound hexact hpar cusip⟩

/-! ## A repo that closes, and amounts of many digits -/

def tradeDay : Date := .of 2026 11 2

/-- The seat of a member. -/
def memberSeat : AccessArrangement := ⟨.direct, "9561", "GSD rules", "SIFMA"⟩

/-- What a seat asks for some obligations. -/
def nettingFields (obligations : List NovatedObligation) : FiccGsdNettingFields where
  clearingAgency := .ficcGsd
  access := .established memberSeat
  obligations
  clearingAcceptanceEvidenceId := "ACCEPTED"
  nettingEvidenceId := "NETTED"

/-- A repo of ten days whose interest is half a cent. -/
def halfCentFields : RepoTradeFields where
  tradeId := "REPO"
  memberId := memberSeat.clearingMemberId
  service := .dvp
  term := .term
  startDate := tradeDay
  closeDate := some (.of 2026 11 12)
  collateralPar := ⟨false, 1000, 0⟩
  startMoney := ⟨false, 180, -2⟩
  repoRatePercent := 10
  cusip := some "912828YK0"
  haircutPercent := 0
  memberMarginApproximation := 0

theorem year_has_no_holidays : ∀ entry ∈ (Dict.empty.set 2026 []).items,
    ∀ day ∈ (entry.2 : List Date), day.year = entry.1 := by
  intro entry hentry day hday
  cases List.mem_singleton.mp hentry
  cases hday

def repoCalendar : MarketCalendar :=
  ⟨.usGovernmentSecurities, Dict.empty.set 2026 [], year_has_no_holidays⟩

theorem halfCentFields_checked : halfCentFields.check repoCalendar = .ok () := by decide +kernel

def halfCentRepo : RepoTrade repoCalendar := ⟨halfCentFields, halfCentFields_checked⟩

/-- Bytes that are read as the document of the repo. -/
def repoCodec : RepoCodec where
  canonicalBytes _ := []
  readDocument _ := repoDocument .ficcGsd memberSeat halfCentFields []

/-- The legs of the repo, as obligations. -/
def repoObligations : Outcome (List NovatedObligation) := do
  let result ← produceRepoResult plainKernel repoCodec halfCentRepo (.established memberSeat)
  dvpLegsForNetting repoCodec result

/-- A list that was returned. -/
def listOf {α : Type} : Outcome (List α) → List α
  | .ok xs => xs
  | .error _ => []

theorem repoRequest_checked : (nettingFields (listOf repoObligations)).check = .ok () := by
  decide +kernel

def repoRequest : FiccGsdNettingRequest := ⟨_, repoRequest_checked⟩

/-- An obligation to take or give some quantity, for one unit of money. -/
def wideObligation (name : String) (quantity : FiniteDecimal) : Outcome NovatedObligation :=
  NovatedObligation.create
    { obligationId := name
      tradeIds := [name]
      memberId := memberSeat.clearingMemberId
      cusip := "912810SX7"
      settlementDate := tradeDay
      signedQuantity := quantity
      signedSettlementAmount := ⟨!quantity.negative, 1, 0⟩
      settlementCurrency := "USD"
      novationEvidenceId := name }

/-- More is taken than the arithmetic has digits for, a unit is taken, and what was taken is
given back. -/
def wideObligations : List NovatedObligation :=
  listOf <| Outcome.collect (fun o => wideObligation o.1 o.2)
    [("TAKEN", ⟨false, 10 ^ 28, 0⟩), ("UNIT", ⟨false, 1, 0⟩), ("GIVEN", ⟨true, 10 ^ 28, 0⟩)]

theorem wideRequest_checked : (nettingFields wideObligations).check = .ok () := by decide +kernel

theorem reversed_checked : (nettingFields (wideObligations.rotate 2)).check = .ok () := by
  decide +kernel

def wideRequest : FiccGsdNettingRequest := ⟨_, wideRequest_checked⟩

def reversedRequest : FiccGsdNettingRequest := ⟨_, reversed_checked⟩

/-- The net quantities of a request. -/
def netQuantities (request : FiccGsdNettingRequest) : Outcome (List FiniteDecimal) :=
  (fun d => d.netSettlementObligations.map fun n => n.netQuantity) <$>
    nettingDocument request memberSeat

theorem values_of_legs : quantities (listOf repoObligations) = [1000, -1000] ∧
    settlementAmounts (listOf repoObligations) = [-180 / 100, 181 / 100] := by
  have hlegs : (listOf repoObligations).map (fun o => (o.signedQuantity, o.signedSettlementAmount)) =
      [(⟨false, 1000, 0⟩, ⟨true, 180, -2⟩), (⟨true, 1000, 0⟩, ⟨false, 181, -2⟩)] := by
    decide +kernel
  have hquantities := congrArg (List.map fun pair => pair.1.value) hlegs
  have hamounts := congrArg (List.map fun pair => pair.2.value) hlegs
  rw [List.map_map] at hquantities hamounts
  refine ⟨hquantities.trans ?_, hamounts.trans ?_⟩ <;>
    norm_num [FiniteDecimal.value, FiniteDecimal.toInt]

/-- Obligations for a unit net to none, and to the unit in another order; and a repo with half a
cent of interest nets to a cent. -/
theorem not_netting_exact :
    (produceFiccGsdResult plainKernel (fun _ => []) wideRequest =
        .ok (.established ⟨plainKernel.digestBytes [], .ficcGsd⟩ []) ∧
      netQuantities wideRequest = .ok [0] ∧ (quantities wideRequest.obligations).sum = 1 ∧
      netQuantities reversedRequest = .ok [1] ∧
      reversedRequest.obligations.Perm wideRequest.obligations) ∧
    (halfCentRepo.unroundedCloseMoney = .ok (some ⟨false, 1805, -3⟩) ∧
      (settlementAmounts (listOf repoObligations)).sum = 1 / 100 ∧
      (1 : ℚ) / 100 ≠ 1805 / 1000 - halfCentRepo.startMoney.value) := by
  have hwide : wideObligations.map (fun o => o.signedQuantity) =
      [⟨false, 10 ^ 28, 0⟩, ⟨false, 1, 0⟩, ⟨true, 10 ^ 28, 0⟩] := by decide +kernel
  refine ⟨⟨by decide +kernel, by decide +kernel, ?_, by decide +kernel, List.rotate_perm _ 2⟩,
    by decide +kernel, ?_, ?_⟩
  · have hvalues : quantities wideRequest.obligations =
        (wideObligations.map fun o => o.signedQuantity).map FiniteDecimal.value := by
      rw [List.map_map]
      rfl
    rw [hvalues, hwide]
    norm_num [FiniteDecimal.value, FiniteDecimal.toInt]
  · rw [values_of_legs.2]
    norm_num
  · norm_num [halfCentRepo, halfCentFields, FiniteDecimal.value, FiniteDecimal.toInt]

/-- The sums of the legs are exact, whatever the security and the date. -/
theorem sumsExactly_legs (cusip : String) (date : Date) :
    SumsExactly (listOf repoObligations) cusip date := by
  obtain ⟨hquantities, hamounts⟩ := values_of_legs
  have hgrid : ∀ n : ℤ, OnGrid (-2) ((n : ℚ) / 100) := by
    intro n
    refine ⟨n, ?_⟩
    norm_num
    ring
  have hexact : ∀ a b : ℤ, |(a : ℚ) / 100| + |(b : ℚ) / 100| < 10 ^ (26 : ℤ) →
      ExactSums ambient [(a : ℚ) / 100, (b : ℚ) / 100] := by
    intro a b hshort
    refine @ExactSums.of_grid ambient _ (-2) ?_ (by decide) (by decide) ?_
    · intro x hx
      simp only [List.mem_cons, List.not_mem_nil, or_false] at hx
      obtain rfl | rfl := hx
      · exact hgrid a
      · exact hgrid b
    · simpa [sumAbs, ambient] using hshort
  constructor
  · refine ExactSums.sublist ?_ ((List.filter_sublist).map _)
    rw [← quantities, hquantities]
    have := hexact 100000 (-100000) (by norm_num)
    norm_num at this
    exact this
  · refine ExactSums.sublist ?_ ((List.filter_sublist).map _)
    rw [← settlementAmounts, hamounts]
    have := hexact (-180) 181 (by norm_num)
    norm_num at this ⊢
    exact this

/-- The legs of the repo net soundly, to no par and to their interest in whole cents. -/
theorem netting_conserves_repo : ∃ document : FiccGsdNettingDocument,
    NetsSoundly repoRequest.obligations document.netSettlementObligations ∧
      PairNets halfCentFields (.of 2026 11 12) (listOf repoObligations) ∧
      ((document.netSettlementObligations.filter fun n => n.cusip = "912828YK0").map
        fun n => n.netQuantity.value).sum = 0 := by
  obtain ⟨document, -, -, hsound, -, hrest⟩ :=
    @netting_conserves plainKernel (fun _ => []) repoRequest
      ⟨plainKernel.digestBytes [], .ficcGsd⟩ [] (by decide +kernel)
  obtain ⟨hpair, hpar⟩ := (hrest sumsExactly_legs).2 repoCodec repoCalendar halfCentRepo
    (.of 2026 11 12) (.established memberSeat) .ficcGsd []
    { status := .established
      payloadDigest := some (plainKernel.digestBytes [])
      payload := some [] }
    (listOf repoObligations) [] (by decide +kernel)
    (by
      intro arrangement document haccess hdocument
      cases haccess
      exact hdocument)
    (by decide +kernel) (by decide +kernel) (by decide +kernel) (by
      rw [List.append_nil]
      exact List.Perm.refl _)
  refine ⟨document, hsound, hpair, ?_⟩
  refine (hpar ?_ "912828YK0").1
  exact hpair.par.mp (by
    rw [values_of_legs.1]
    norm_num)

end Clearing

end Atreides
