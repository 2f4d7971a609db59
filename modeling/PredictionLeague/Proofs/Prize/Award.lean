import Mathlib.Algebra.BigOperators.Ring.Finset
import PredictionLeague.Prize.Award
import PredictionLeague.Proofs.Prize.Split
import PredictionLeague.Proofs.Standings

/-!
# What is paid to whom

The awards of a settlement written out: for each kind of prize that is due, the settings whose
winnings it replaces, its period, and what every paid setting pays to its winners.

* `Prize.winners`: who wins a prize after a round;
* `Prize.due`, `Prize.periodOf`, `Prize.payable`: whether a kind is settled, for which period, and
  which settings are paid;
* `Prize.paid`: the payments of a setting, made to its winners in ascending order (`users_of_pay`)
  and adding up to the prize (`sum_paid`);
* `award?_eq`, `awards_ok`: the awards of a settlement, and `awards_congr`: what they depend on.
-/

namespace PredictionLeague

/-! ### Calculations -/

section Calculation

variable {α β : Type}

theorem bind_eq_ok {x : Except Fault α} {f : α → Except Fault β} {b : β} :
    (x >>= f) = .ok b ↔ ∃ a, x = .ok a ∧ f a = .ok b := by
  cases x with
  | error fault => simp [bind, Except.bind]
  | ok a => simp [bind, Except.bind]

theorem mapM_cons_eq_ok {f : α → Except Fault β} {x : α} {xs : List α} {list : List β} :
    (x :: xs).mapM f = .ok list ↔ ∃ y ys, f x = .ok y ∧ xs.mapM f = .ok ys ∧ list = y :: ys := by
  rw [List.mapM_cons, bind_eq_ok]
  simp only [bind_eq_ok, pure, Except.pure, Except.ok.injEq]
  constructor
  · rintro ⟨y, hy, ys, hys, rfl⟩
    exact ⟨y, ys, hy, hys, rfl⟩
  · rintro ⟨y, ys, hy, hys, rfl⟩
    exact ⟨y, hy, ys, hys, rfl⟩

theorem mapM_append_eq_ok {f : α → Except Fault β} {xs ys : List α} {list : List β} :
    (xs ++ ys).mapM f = .ok list ↔
      ∃ as bs, xs.mapM f = .ok as ∧ ys.mapM f = .ok bs ∧ list = as ++ bs := by
  rw [List.mapM_append]
  simp only [bind_eq_ok, pure, Except.pure, Except.ok.injEq]
  constructor
  · rintro ⟨as, has, bs, hbs, rfl⟩
    exact ⟨as, bs, has, hbs, rfl⟩
  · rintro ⟨as, bs, has, hbs, rfl⟩
    exact ⟨as, has, bs, hbs, rfl⟩

theorem mem_of_mapM_ok {f : α → Except Fault β} {xs : List α} {ys : List β}
    (h : xs.mapM f = .ok ys) :
    (∀ y ∈ ys, ∃ x ∈ xs, f x = .ok y) ∧ ∀ x ∈ xs, ∃ y ∈ ys, f x = .ok y := by
  induction xs generalizing ys with
  | nil =>
    obtain rfl : ys = [] := (Except.ok.inj h).symm
    simp
  | cons x xs ih =>
    obtain ⟨y, ys, hy, hys, rfl⟩ := mapM_cons_eq_ok.1 h
    obtain ⟨hback, hforth⟩ := ih hys
    constructor
    · refine List.forall_mem_cons.2 ⟨⟨x, List.mem_cons_self, hy⟩, fun z hz => ?_⟩
      obtain ⟨w, hw, hwz⟩ := hback z hz
      exact ⟨w, List.mem_cons_of_mem _ hw, hwz⟩
    · refine List.forall_mem_cons.2 ⟨⟨y, List.mem_cons_self, hy⟩, fun z hz => ?_⟩
      obtain ⟨w, hw, hzw⟩ := hforth z hz
      exact ⟨w, List.mem_cons_of_mem _ hw, hzw⟩

theorem mapM_congr {f g : α → Except Fault β} {xs : List α} (h : ∀ x ∈ xs, f x = g x) :
    xs.mapM f = xs.mapM g := by
  induction xs with
  | nil => rfl
  | cons x xs ih =>
    obtain ⟨hfirst, hrest⟩ := List.forall_mem_cons.1 h
    rw [List.mapM_cons, List.mapM_cons, hfirst, ih hrest]

/-- A calculation for each element of a list gives the value of each. -/
theorem mapM_eq_ok {f : α → Except Fault β} (g : α → β) (hg : ∀ x y, f x = .ok y → y = g x)
    {xs : List α} {ys : List β} (h : xs.mapM f = .ok ys) :
    ys = xs.map g ∧ ∀ x ∈ xs, f x = .ok (g x) := by
  induction xs generalizing ys with
  | nil =>
    obtain rfl : ys = [] := (Except.ok.inj h).symm
    exact ⟨rfl, fun x hx => absurd hx (by simp)⟩
  | cons x xs ih =>
    obtain ⟨y, ys, hy, hys, rfl⟩ := mapM_cons_eq_ok.1 h
    obtain ⟨hmap, hall⟩ := ih hys
    obtain rfl := hg x y hy
    exact ⟨by rw [hmap, List.map_cons], List.forall_mem_cons.2 ⟨hy, hall⟩⟩

end Calculation

namespace Prize

/-! ### Payments -/

/-- What a setting pays to its winners. -/
def paid (setting : PrizeSetting) (winners : List Int) : List Payment :=
  match pay setting winners with
  | .ok payments => payments
  | .error _ => []

theorem paid_of_ok {setting : PrizeSetting} {winners : List Int} {payments : List Payment}
    (h : pay setting winners = .ok payments) : payments = paid setting winners := by
  rw [paid, h]

theorem length_of_split {total : Decimal} {n : Nat} {parts : List Decimal}
    (h : split total n = .ok parts) : parts.length = n := by
  unfold split at h
  split at h
  · rename_i hn
    obtain rfl := Except.ok.inj h
    exact hn.symm
  · split at h
    · split at h
      · obtain rfl := Except.ok.inj h
        simp
      · exact absurd h (by simp)
    · exact absurd h (by simp)

theorem pay_eq_ok {setting : PrizeSetting} {winners : List Int} {payments : List Payment}
    (h : pay setting winners = .ok payments) :
    ∃ parts, split (Decimal.ofPennies setting.amount) winners.length = .ok parts ∧
      payments = (ascending winners).zipWith
        (fun userId part => ⟨userId, setting.id, Money.kept part.pennies⟩) parts := by
  obtain ⟨parts, hparts, h⟩ := bind_eq_ok.1 h
  rw [length_ascending] at hparts
  exact ⟨parts, hparts, (Except.ok.inj h).symm⟩

/-- The winners of a prize are paid in ascending order. -/
theorem users_of_pay {setting : PrizeSetting} {winners : List Int} {payments : List Payment}
    (h : pay setting winners = .ok payments) :
    payments.map (·.userId) = ascending winners := by
  obtain ⟨parts, hparts, rfl⟩ := pay_eq_ok h
  have hlength : (ascending winners).length = parts.length := by
    rw [length_ascending, length_of_split hparts]
  rw [← List.map_uncurry_zip_eq_zipWith, List.map_map]
  exact List.map_fst_zip (by omega)

/-- The winners of a prize are paid what the store keeps of their shares. -/
theorem amounts_of_pay {setting : PrizeSetting} {winners : List Int} {payments : List Payment}
    (h : pay setting winners = .ok payments) :
    ∃ parts, split (Decimal.ofPennies setting.amount) winners.length = .ok parts ∧
      payments.map (·.amount) = parts.map fun part => Money.kept part.pennies := by
  obtain ⟨parts, hparts, rfl⟩ := pay_eq_ok h
  have hlength : parts.length ≤ (ascending winners).length := by
    rw [length_ascending, length_of_split hparts]
  refine ⟨parts, hparts, ?_⟩
  have hpart : (fun payment : Payment => payment.amount) ∘
      Function.uncurry (fun userId part => ⟨userId, setting.id, Money.kept part.pennies⟩) =
        (fun part : Decimal => Money.kept part.pennies) ∘ Prod.snd := rfl
  rw [← List.map_uncurry_zip_eq_zipWith, List.map_map, hpart, ← List.map_map,
    List.map_snd_zip hlength]

theorem mem_paid {setting : PrizeSetting} {winners : List Int} {payment : Payment}
    (h : payment ∈ paid setting winners) :
    payment.settingId = setting.id ∧ payment.userId ∈ winners := by
  cases hp : pay setting winners with
  | error fault => simp [paid, hp] at h
  | ok payments =>
    rw [← paid_of_ok hp] at h
    have huser : payment.userId ∈ ascending winners :=
      users_of_pay hp ▸ List.mem_map_of_mem h
    obtain ⟨parts, -, rfl⟩ := pay_eq_ok hp
    rw [← List.map_uncurry_zip_eq_zipWith] at h
    obtain ⟨pair, -, rfl⟩ := List.mem_map.1 h
    exact ⟨rfl, mem_ascending.1 huser⟩

theorem nodup_paid {setting : PrizeSetting} {winners : List Int} (h : winners.Nodup) :
    ((paid setting winners).map (·.userId)).Nodup := by
  cases hp : pay setting winners with
  | error fault => simp [paid, hp]
  | ok payments =>
    rw [← paid_of_ok hp, users_of_pay hp]
    exact nodup_ascending.2 h

@[simp] theorem pay_nil (setting : PrizeSetting) : pay setting [] = .ok [] := rfl

@[simp] theorem paid_nil (setting : PrizeSetting) : paid setting [] = [] := rfl

/-- An amount of money that is not negative and has at most fifteen digits. -/
def Payable (setting : PrizeSetting) : Prop :=
  0 ≤ setting.amount ∧ setting.amount < 1000000000000000

/-- A prize in reach of the store's money is split to the penny. -/
theorem split_payable {setting : PrizeSetting} (h : Payable setting) (n : Nat) :
    split (Decimal.ofPennies setting.amount) n =
      .ok ((shares setting.amount.toNat n).map Decimal.whole) := by
  obtain ⟨t, ht⟩ := Int.eq_ofNat_of_zero_le h.1
  rcases Nat.eq_zero_or_pos n with rfl | hn
  · rfl
  have hsmall : t < 1000000000000000 := by
    have := h.2
    omega
  rw [ht, Decimal.ofPennies_eq_whole, Int.toNat_natCast]
  exact split_whole (Nat.lt_trans hsmall (by decide)) hn

/-- The store keeps the shares of such a prize. -/
theorem amounts_paid {setting : PrizeSetting} (h : Payable setting) (winners : List Int) :
    (paid setting winners).map (·.amount) =
      (shares setting.amount.toNat winners.length).map Nat.cast := by
  have hsplit := split_payable h winners.length
  obtain ⟨payments, hpay⟩ : ∃ payments, pay setting winners = .ok payments := by
    rw [pay, length_ascending, hsplit]
    exact ⟨_, rfl⟩
  obtain ⟨parts, hparts, hamounts⟩ := amounts_of_pay hpay
  obtain rfl := Except.ok.inj (hsplit.symm.trans hparts)
  rw [← paid_of_ok hpay, hamounts, List.map_map]
  refine List.map_congr_left fun share hshare => ?_
  have hle := share_le hshare
  have hbound := h.2
  rw [Function.comp_apply, Decimal.pennies_whole, Money.kept_of_lt (by omega)]

/-- The payments of a prize add up to it. -/
theorem sum_paid {setting : PrizeSetting} (h : Payable setting) {winners : List Int}
    (hw : winners ≠ []) : ((paid setting winners).map (·.amount)).sum = setting.amount := by
  have hsum := sum_shares setting.amount.toNat (List.length_pos_iff.2 hw)
  rw [amounts_paid h, ← Nat.cast_list_sum, hsum]
  exact Int.toNat_of_nonneg h.1

/-! ### Awards -/

/-- Who wins a prize after a round. -/
def winners (s : Store) (standings : Standings) (round : Round) (setting : PrizeSetting) :
    PrizeKind → List Int
  | .round => standings.roundWinners round.id
  | .monthly => standings.periodWinners ((s.monthOf round).map (·.id))
  | .overall => groupAt standings.overall setting.rank
  | .mostExactScores => standings.mostExact

/-- The period of a kind of prize after a round. -/
def periodOf (round : Round) : PrizeKind → Period
  | .round => .round round.number
  | .monthly => .month round.start.month
  | .overall | .mostExactScores => .season

/-- Whether a round settles a kind of prize. -/
def due (s : Store) (round : Round) (season : Option Season) : PrizeKind → Bool
  | .round => true
  | .monthly => ((s.monthOf round).map (·.id)).getLast? == some round.id
  | .overall | .mostExactScores => season.any (isLastRound · round)

/-- The settings of a kind that are paid. -/
def payable (settings : List PrizeSetting) : PrizeKind → List PrizeSetting
  | .overall => settings
  | _ => settings.take 1

/-- The award of a kind of prize after a round. -/
def awardOf (s : Store) (standings : Standings) (round : Round) (kind : PrizeKind)
    (settings : List PrizeSetting) : Award :=
  ⟨settings.map (·.id), periodOf round kind, (payable settings kind).flatMap fun setting =>
    paid setting (winners s standings round setting kind)⟩

/-- Whether a round settles a kind of prize; for season prizes the season has to be there. -/
def asked (s : Store) (round : Round) (season : Option Season) : PrizeKind → Except Fault Bool
  | .round => .ok true
  | .monthly => .ok (((s.monthOf round).map (·.id)).getLast? == some round.id)
  | .overall | .mostExactScores => settlesSeason season round

theorem due_of_asked {s : Store} {round : Round} {season : Option Season} {kind : PrizeKind}
    {b : Bool} (h : asked s round season kind = .ok b) : due s round season kind = b := by
  have hseason (h : settlesSeason season round = .ok b) :
      season.any (isLastRound · round) = b := by
    cases season with
    | none => exact absurd h (by simp [settlesSeason])
    | some season => exact Except.ok.inj h
  cases kind with
  | round => exact Except.ok.inj h
  | monthly => exact Except.ok.inj h
  | overall => exact hseason h
  | mostExactScores => exact hseason h

/-- A rank prize is paid to the group of its rank, and to nobody when there is no such group. -/
theorem payRanks_eq (groups : List RankGroup) (settings : List PrizeSetting) :
    payRanks groups settings =
      (settings.mapM fun setting => pay setting (groupAt groups setting.rank)) >>=
        fun lists => .ok lists.flatten := by
  refine congrArg (· >>= fun lists => Except.ok lists.flatten) (mapM_congr fun setting _ => ?_)
  split
  · rename_i hnone
    rw [groupAt_of_none hnone, pay_nil]
  · rename_i group hsome
    rw [groupAt_of_some hsome]

/-- All kinds of prizes are settled alike: when the round settles the kind, every setting that is
paid is split among its winners. -/
theorem award?_eq (s : Store) (kind : PrizeKind) (settings : List PrizeSetting)
    (standings : Standings) (round : Round) (season : Option Season) :
    award? s kind settings standings round season =
      if settings.isEmpty then .ok none
      else asked s round season kind >>= fun due =>
        if due then
          ((payable settings kind).mapM fun setting =>
            pay setting (winners s standings round setting kind)) >>= fun lists =>
              .ok (some ⟨settings.map (·.id), periodOf round kind, lists.flatten⟩)
        else .ok none := by
  cases settings with
  | nil => rfl
  | cons setting rest =>
    -- Three kinds pay their first setting, as if it were a list of one; two ask for the season.
    have hfirst (period : Period) (winners : List Int) :
        (pay setting winners >>= fun payments =>
          Except.ok (some (⟨(setting :: rest).map (·.id), period, payments⟩ : Award))) =
        ([setting].mapM fun setting => pay setting winners) >>= fun lists =>
          Except.ok (some ⟨(setting :: rest).map (·.id), period, lists.flatten⟩) := by
      rw [List.mapM_cons, List.mapM_nil]
      cases pay setting winners with
      | error fault => rfl
      | ok payments => simp [bind, Except.bind, pure, Except.pure]
    have hdue {x y : Except Fault (Option Award)} (hxy : x = y) (b : Bool) :
        (if !b then pure none else x) = if b then y else .ok none := by
      subst hxy
      cases b <;> rfl
    have hseason {x y : Except Fault (Option Award)} (hxy : x = y) :
        (settlesSeason season round >>= fun b => if !b then pure none else x) =
          settlesSeason season round >>= fun due => if due then y else .ok none := by
      cases settlesSeason season round with
      | error fault => rfl
      | ok b => exact hdue hxy b
    cases kind with
    | round => exact hfirst (.round round.number) (standings.roundWinners round.id)
    | monthly =>
      exact hdue (hfirst (.month round.start.month) _)
        (((s.monthOf round).map (·.id)).getLast? == some round.id)
    | overall =>
      refine hseason ?_
      rw [payRanks_eq]
      simp only [payable, winners]
      cases (setting :: rest).mapM fun setting =>
        pay setting (groupAt standings.overall setting.rank) <;> rfl
    | mostExactScores => exact hseason (hfirst .season standings.mostExact)

/-- What a kind of prize pays after a round, when the calculation succeeds. -/
theorem award?_ok {s : Store} {kind : PrizeKind} {settings : List PrizeSetting}
    {standings : Standings} {round : Round} {season : Option Season} {award : Option Award}
    (h : award? s kind settings standings round season = .ok award) :
    award = (if !settings.isEmpty && due s round season kind then
        some (awardOf s standings round kind settings) else none) ∧
      (due s round season kind → ∀ setting ∈ payable settings kind,
        pay setting (winners s standings round setting kind) =
          .ok (paid setting (winners s standings round setting kind))) := by
  rw [award?_eq] at h
  cases settings with
  | nil =>
    have hempty : payable [] kind = [] := by cases kind <;> rfl
    rw [hempty]
    exact ⟨(Except.ok.inj h).symm, fun _ setting hsetting => absurd hsetting (by simp)⟩
  | cons setting rest =>
    obtain ⟨b, hasked, h⟩ := bind_eq_ok.1 h
    rw [due_of_asked hasked]
    cases b with
    | false => exact ⟨(Except.ok.inj h).symm, fun hdue => absurd hdue (by simp)⟩
    | true =>
      obtain ⟨lists, hlists, h⟩ := bind_eq_ok.1 h
      obtain ⟨rfl, hpay⟩ := mapM_eq_ok _ (fun _ _ => paid_of_ok) hlists
      refine ⟨(Except.ok.inj h).symm.trans ?_, fun _ => hpay⟩
      rw [← List.flatMap_def]
      rfl

/-- The kinds of prizes that a round settles, of those for which there are settings. -/
def dueKinds (s : Store) (settings : List PrizeSetting) (round : Round) (season : Option Season) :
    List PrizeKind :=
  PrizeKind.all.filter fun kind =>
    !(settings.filter (·.kind == kind)).isEmpty && due s round season kind

/-- The awards of a settlement, when the calculation succeeds: one for each kind that is due. -/
theorem awards_ok {s : Store} {settings : List PrizeSetting} {standings : Standings}
    {round : Round} {season : Option Season} {list : List Award}
    (h : awards s settings standings round season = .ok list) :
    list = (dueKinds s settings round season).map fun kind =>
      awardOf s standings round kind (settings.filter (·.kind == kind)) := by
  obtain ⟨options, hoptions, h⟩ := bind_eq_ok.1 h
  obtain ⟨rfl, -⟩ := mapM_eq_ok _ (fun kind award haward => (award?_ok haward).1) hoptions
  obtain rfl := Except.ok.inj h
  rw [List.filterMap_map, dueKinds, ← List.filterMap_eq_filter, List.map_filterMap]
  refine List.filterMap_congr fun kind _ => ?_
  simp only [Function.comp_apply, id, Option.guard]
  split <;> rfl

/-- In a settlement that succeeds every paid setting is split among its winners. -/
theorem pay_of_awards_ok {s : Store} {settings : List PrizeSetting} {standings : Standings}
    {round : Round} {season : Option Season} {list : List Award}
    (h : awards s settings standings round season = .ok list) {kind : PrizeKind}
    (hdue : due s round season kind = true) {setting : PrizeSetting}
    (hsetting : setting ∈ payable (settings.filter (·.kind == kind)) kind) :
    pay setting (winners s standings round setting kind) =
      .ok (paid setting (winners s standings round setting kind)) := by
  obtain ⟨options, hoptions, -⟩ := bind_eq_ok.1 h
  obtain ⟨-, hall⟩ := mapM_eq_ok _ (fun kind award haward => (award?_ok haward).1) hoptions
  have hkind : kind ∈ PrizeKind.all := by cases kind <;> decide
  exact (award?_ok (hall kind hkind)).2 hdue setting hsetting

/-- What is paid to winners does not depend on the order in which they are named. -/
theorem pay_of_perm (setting : PrizeSetting) {ws ws' : List Int} (h : ws.Perm ws') :
    pay setting ws = pay setting ws' := by
  rw [pay, pay, ascending_eq_of_perm h]

/-- The awards of a settlement depend on the rounds of the month and on the winners of the settings
that are paid. -/
theorem awards_congr {s s' : Store} {settings : List PrizeSetting}
    {standings standings' : Standings} {round : Round} {season : Option Season}
    (hmonth : s'.monthOf round = s.monthOf round)
    (hwinners : ∀ kind, due s round season kind = true →
      ∀ setting ∈ payable (settings.filter (·.kind == kind)) kind,
        (winners s' standings' round setting kind).Perm (winners s standings round setting kind)) :
    awards s' settings standings' round season = awards s settings standings round season := by
  have hasked (kind : PrizeKind) : asked s' round season kind = asked s round season kind := by
    cases kind <;> simp only [asked, hmonth]
  have haward (kind : PrizeKind) :
      award? s' kind (settings.filter (·.kind == kind)) standings' round season =
        award? s kind (settings.filter (·.kind == kind)) standings round season := by
    rw [award?_eq, award?_eq, hasked]
    refine if_congr Iff.rfl rfl ?_
    cases hdue : asked s round season kind with
    | error fault => rfl
    | ok b =>
      cases b with
      | false => rfl
      | true =>
        have hpay := mapM_congr fun setting hsetting => pay_of_perm setting
          (hwinners kind (due_of_asked hdue) setting hsetting)
        exact congrArg (· >>= fun lists : List (List Payment) => Except.ok (some (⟨_, _,
          lists.flatten⟩ : Award))) hpay
  rw [awards, awards]
  simp only [haward]

/-! ### Winners are different players -/

theorem nodup_winners (s : Store) (standings : Standings) (round : Round) (setting : PrizeSetting)
    (kind : PrizeKind) : (winners s standings round setting kind).Nodup := by
  have hplayers (figure : RoundScore → Int) : ((standings.totals figure).map (·.1)).Nodup := by
    rw [Standings.users_totals]
    exact nodup_eraseDups _
  cases kind with
  | round => exact Standings.nodup_topScorers (hplayers _)
  | monthly => exact Standings.nodup_topScorers (hplayers _)
  | overall => exact nodup_groupAt (hplayers _) _
  | mostExactScores => exact Standings.nodup_topScorers (hplayers _)

/-! ### Settings -/

theorem mem_settingsOf {s : Store} {leagueId : Int} {setting : PrizeSetting} :
    setting ∈ settingsOf s leagueId ↔ setting ∈ s.prizeSettings ∧ setting.leagueId = leagueId := by
  simp [settingsOf]

theorem nodup_settingsOf {s : Store} (h : (s.prizeSettings.map (·.id)).Nodup) (leagueId : Int) :
    ((settingsOf s leagueId).map (·.id)).Nodup :=
  ((sorted_perm _).map _).nodup_iff.2 (h.sublist (List.filter_sublist.map _))

theorem payable_sublist (settings : List PrizeSetting) (kind : PrizeKind) :
    (payable settings kind).Sublist settings := by
  cases kind with
  | overall => exact .refl settings
  | round => exact List.take_sublist 1 settings
  | monthly => exact List.take_sublist 1 settings
  | mostExactScores => exact List.take_sublist 1 settings

/-- The payments of a setting among those of several. -/
theorem filter_payments (w : PrizeSetting → List Int) {setting : PrizeSetting}
    {settings : List PrizeSetting} (hnodup : (settings.map (·.id)).Nodup)
    (hinj : ∀ other ∈ settings, other.id = setting.id → other = setting) :
    ((settings.flatMap fun setting => paid setting (w setting)).filter
        (·.settingId == setting.id)) =
      if setting ∈ settings then paid setting (w setting) else [] := by
  induction settings with
  | nil => rfl
  | cons other settings ih =>
    obtain ⟨hfirst, hrest⟩ := List.nodup_cons.1 hnodup
    have ih := ih hrest fun other hother => hinj other (List.mem_cons_of_mem _ hother)
    rw [List.flatMap_cons, List.filter_append, ih]
    by_cases hid : other.id = setting.id
    · -- Its own payments all go to the setting, and no later setting is the same.
      obtain rfl := hinj other List.mem_cons_self hid
      have hnot : other ∉ settings := fun hmem => hfirst (List.mem_map_of_mem hmem)
      have hall : (paid other (w other)).filter (·.settingId == other.id) = paid other (w other) :=
        List.filter_eq_self.2 fun payment hpayment => beq_iff_eq.2 (mem_paid hpayment).1
      rw [hall, if_neg hnot, if_pos List.mem_cons_self, List.append_nil]
    · have hnone : (paid other (w other)).filter (·.settingId == setting.id) = [] :=
        List.filter_eq_nil_iff.2 fun payment hpayment hsame =>
          hid ((mem_paid hpayment).1.symm.trans (beq_iff_eq.1 hsame))
      have hne : setting ≠ other := fun h => hid (h ▸ rfl)
      simp only [hnone, List.nil_append, List.mem_cons, hne, false_or]

/-- What the award of a kind of prize pays of a setting. -/
theorem filter_payments_awardOf {s : Store} (hids : (s.prizeSettings.map (·.id)).Nodup)
    (leagueId : Int) (standings : Standings) (round : Round) (kind : PrizeKind)
    {setting : PrizeSetting} (hsetting : setting ∈ s.prizeSettings) :
    (awardOf s standings round kind
        ((settingsOf s leagueId).filter (·.kind == kind))).payments.filter
          (·.settingId == setting.id) =
      if setting ∈ payable ((settingsOf s leagueId).filter (·.kind == kind)) kind then
        paid setting (winners s standings round setting kind) else [] := by
  have hsub := (payable_sublist ((settingsOf s leagueId).filter (·.kind == kind)) kind).trans
    List.filter_sublist
  refine filter_payments (fun setting => winners s standings round setting kind)
    ((nodup_settingsOf hids leagueId).sublist (hsub.map (·.id))) fun other hother hsame => ?_
  exact List.inj_on_of_nodup_map hids (mem_settingsOf.1 (hsub.subset hother)).1 hsetting hsame

end Prize

end PredictionLeague
