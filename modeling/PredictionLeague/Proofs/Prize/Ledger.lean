import PredictionLeague.Proofs.Invariant
import PredictionLeague.Proofs.Prize.Record

/-!
# The ledger of prizes

Each prize is paid in whole for a period or not at all, however often and in whatever order rounds
are settled.

* `PrizeKind.pays`: the periods that a kind of prize is paid for;
* `Prize.Whole`: nothing, or the whole amount among different players;
* `Prize.Sound`: every prize of a ledger is whole in every period, and every winning has a prize and
  a period;
* `Award.Fair`, `Sound.record`: recording fair awards keeps a ledger sound;
* `Prize.Course`, `Course.sound`: so does every run of calls.
-/

namespace PredictionLeague

/-- The periods that a kind of prize is paid for. -/
def PrizeKind.pays : PrizeKind → Prize.Period → Bool
  | .round, .round _ => true
  | .monthly, .month _ => true
  | .overall, .season => true
  | .mostExactScores, .season => true
  | _, _ => false

namespace Prize

/-- Nothing is paid, or the whole amount among different players. -/
def Whole (setting : PrizeSetting) (shares : List (Int × Int)) : Prop :=
  shares = [] ∨ (shares.map (·.2)).sum = setting.amount ∧ (shares.map (·.1)).Nodup

/-- Every prize is whole in every period, and every winning has a prize and a period. -/
structure Sound (settings : List PrizeSetting) (winnings : List Winning) : Prop where
  whole : ∀ setting ∈ settings, ∀ period, setting.kind.pays period = true →
    Whole setting ((recorded winnings setting.id period).map Winning.share)
  known : ∀ w ∈ winnings, ∃ setting ∈ settings, setting.id = w.settingId ∧
    ∃ period, setting.kind.pays period = true ∧ period.covers w = true

/-- An award pays settings of its period, each in whole. -/
structure Award.Fair (settings : List PrizeSetting) (award : Award) : Prop where
  pays : ∀ id ∈ award.settingIds, ∃ setting ∈ settings, setting.id = id ∧
    setting.kind.pays award.period = true
  known : award.Known
  whole : ∀ setting ∈ settings, setting.id ∈ award.settingIds →
    Whole setting ((award.payments.filter (·.settingId == setting.id)).map Payment.share)

/-! ### Periods -/

/-- A winning is for one period of a kind of prize. -/
theorem period_unique {kind : PrizeKind} {p q : Period} (hp : kind.pays p = true)
    (hq : kind.pays q = true) {w : Winning} (hpw : p.covers w = true) (hqw : q.covers w = true) :
    p = q := by
  cases kind <;> cases p <;> cases q <;> simp_all [PrizeKind.pays, Period.covers]

/-! ### Recording -/

section Record

variable {settings : List PrizeSetting} {winnings : List Winning} {award : Award}

/-- A prize of another period than the award is left alone, for a winning has one period. -/
theorem recorded_award_otherPeriod {setting : PrizeSetting} {period : Period}
    (hpays : setting.kind.pays period = true) (hpays' : setting.kind.pays award.period = true)
    (hne : period ≠ award.period) (now : DateTime) :
    recorded (award.kept winnings ++ award.paid now winnings) setting.id period =
      recorded winnings setting.id period := by
  have hkept : recorded (award.kept winnings) setting.id period =
      recorded winnings setting.id period := by
    refine recorded_kept_other fun w _ hcovers => ?_
    rw [Award.replaces, Bool.and_eq_false_imp]
    intro _
    by_contra hreplaced
    exact hne (period_unique hpays hpays' hcovers (by simpa using hreplaced))
  have hpaid : recorded (award.paid now winnings) setting.id period = [] := by
    refine recorded_paid_other fun payment _ _ n => ?_
    by_contra hcovers
    exact hne (period_unique hpays hpays' (by simpa using hcovers)
      (covers_winning payment award.period now n))
  rw [recorded_append, hkept, hpaid, List.append_nil]

/-- Recording a fair award keeps a ledger sound. -/
theorem Sound.record (h : Sound settings winnings) (hids : (settings.map (·.id)).Nodup)
    (ha : award.Fair settings) (now : DateTime) :
    Sound settings (award.kept winnings ++ award.paid now winnings) := by
  refine ⟨fun setting hsetting period hpays => ?_, fun w hw => ?_⟩
  · by_cases hid : setting.id ∈ award.settingIds
    · obtain ⟨other, hother, hsame, hpays'⟩ := ha.pays setting.id hid
      obtain rfl : other = setting := List.inj_on_of_nodup_map hids hother hsetting hsame
      by_cases hperiod : period = award.period
      · rw [hperiod, recorded_append, List.map_append, recorded_kept_self hid, shares_paid_self]
        exact ha.whole other hsetting hid
      · rw [recorded_award_otherPeriod hpays hpays' hperiod]
        exact h.whole other hsetting period hpays
    · rw [recorded_award_other hid ha.known]
      exact h.whole setting hsetting period hpays
  · rcases List.mem_append.1 hw with hw | hw
    · exact h.known w (List.mem_of_mem_filter hw)
    · obtain ⟨payment, hpayment, n, rfl⟩ := Table.mem_numbered hw
      obtain ⟨setting, hsetting, hid, hpays⟩ := ha.pays _ (ha.known payment hpayment)
      exact ⟨setting, hsetting, hid, award.period, hpays, covers_winning payment award.period now n⟩

theorem Sound.recordAwards (h : Sound settings winnings) (hids : (settings.map (·.id)).Nodup)
    {awards : List Award} (ha : ∀ award ∈ awards, award.Fair settings) (now : DateTime) :
    Sound settings (recordAwards now winnings awards).1 := by
  -- One award after the other, each on the winnings that those before it left.
  induction awards generalizing winnings with
  | nil => exact h
  | cons award awards ih =>
    exact ih (h.record hids (ha award List.mem_cons_self) now)
      (fun award haward => ha award (List.mem_cons_of_mem _ haward))

end Record

/-! ### Awards are fair -/

theorem pays_periodOf (kind : PrizeKind) (round : Round) :
    kind.pays (periodOf round kind) = true := by
  cases kind <;> rfl

theorem whole_paid {setting : PrizeSetting} (h : Payable setting) {winners : List Int}
    (hw : winners.Nodup) : Whole setting ((paid setting winners).map Payment.share) := by
  rcases eq_or_ne winners [] with rfl | hne
  · exact .inl rfl
  · rw [Whole, List.map_map, List.map_map]
    exact .inr ⟨sum_paid h hne, nodup_paid hw⟩

/-- The awards of a settlement are fair. -/
theorem fair_awardOf {s : Store} (hids : (s.prizeSettings.map (·.id)).Nodup)
    (hpayable : ∀ setting ∈ s.prizeSettings, Payable setting) (leagueId : Int)
    (standings : Standings) (round : Round) (kind : PrizeKind) :
    (awardOf s standings round kind ((settingsOf s leagueId).filter (·.kind == kind))).Fair
      s.prizeSettings := by
  refine ⟨fun id hid => ?_, known_awardOf s standings round kind _, fun setting hsetting _ => ?_⟩
  · obtain ⟨setting, hsetting, rfl⟩ := List.mem_map.1 hid
    obtain ⟨hleague, hkind⟩ := List.mem_filter.1 hsetting
    obtain rfl := beq_iff_eq.1 hkind
    exact ⟨setting, (mem_settingsOf.1 hleague).1, rfl, pays_periodOf setting.kind round⟩
  · rw [filter_payments_awardOf hids leagueId standings round kind hsetting]
    split
    · exact whole_paid (hpayable setting hsetting) (nodup_winners s standings round setting kind)
    · exact .inl rfl

theorem fair_awards {s : Store} (hids : (s.prizeSettings.map (·.id)).Nodup)
    (hpayable : ∀ setting ∈ s.prizeSettings, Payable setting) {leagueId : Int}
    {standings : Standings} {round : Round} {season : Option Season} {list : List Award}
    (h : awards s (settingsOf s leagueId) standings round season = .ok list) :
    ∀ award ∈ list, award.Fair s.prizeSettings := by
  rw [awards_ok h]
  intro award haward
  obtain ⟨kind, -, rfl⟩ := List.mem_map.1 haward
  exact fair_awardOf hids hpayable leagueId standings round kind

/-! ### Runs -/

/-- The stores that calls lead to from a store without winnings, when anything but the winnings and
the prize settings may change between calls. -/
inductive Course (settings : List PrizeSetting) : Store → Prop
  | start {s : Store} (hsettings : s.prizeSettings = settings) (hwinnings : s.winnings = []) :
    Course settings s
  | call {s : Store} (call : Call) (h : Course settings s) : Course settings (call.after s)
  | change {s s' : Store} (h : Course settings s) (hsettings : s'.prizeSettings = s.prizeSettings)
    (hwinnings : s'.winnings = s.winnings) : Course settings s'

theorem sound_nil (settings : List PrizeSetting) : Sound settings [] :=
  ⟨fun _ _ _ _ => .inl rfl, fun w hw => absurd hw (by simp)⟩

section Course

variable {settings : List PrizeSetting} (hids : (settings.map (·.id)).Nodup)
  (hpayable : ∀ setting ∈ settings, Payable setting)

include hids hpayable

/-- No write of the engine makes a ledger unsound: only prizes touch it. -/
theorem sound_keptByWrites :
    KeptByWrites fun s => s.prizeSettings = settings ∧ Sound settings s.winnings where
  recorded _ _ h := h
  status _ _ _ _ h := h
  rescored _ _ _ h := h
  counted _ _ h := h
  scored _ _ _ h := h
  boosted _ _ h := h
  snapshot _ _ h := h
  live _ _ _ h := h
  stable _ _ _ h := h
  paid s leagueId round now awards h hawards := by
    obtain ⟨rfl, hsound⟩ := h
    exact ⟨rfl, hsound.recordAwards hids (fair_awards hids hpayable hawards) now⟩
  used _ _ _ _ _ _ h _ := h
  removed _ _ h := h

theorem Course.sound {s : Store} (h : Course settings s) :
    s.prizeSettings = settings ∧ Sound settings s.winnings := by
  induction h with
  | start hsettings hwinnings => exact ⟨hsettings, hwinnings ▸ sound_nil settings⟩
  | call call _ ih => exact (sound_keptByWrites hids hpayable).after call ih
  | change _ hsettings hwinnings ih =>
    exact ⟨hsettings.trans ih.1, hwinnings ▸ ih.2⟩

/-- After any run of calls, every prize is paid for a period in whole, among different players, or
not at all; and every winning is for a prize and a period of its kind. -/
theorem Course.paid_once {s : Store} (h : Course settings s) :
    (∀ setting ∈ settings, ∀ period, setting.kind.pays period = true →
      recorded s.winnings setting.id period = [] ∨
        ((recorded s.winnings setting.id period).map (·.amount)).sum = setting.amount ∧
        ((recorded s.winnings setting.id period).map (·.userId)).Nodup) ∧
    ∀ w ∈ s.winnings, ∃ setting ∈ settings, setting.id = w.settingId ∧
      ∃ period, setting.kind.pays period = true ∧ period.covers w = true := by
  obtain ⟨-, hsound⟩ := h.sound hids hpayable
  refine ⟨fun setting hsetting period hpays => ?_, hsound.known⟩
  have hwhole := hsound.whole setting hsetting period hpays
  rwa [Whole, List.map_eq_nil_iff, List.map_map, List.map_map] at hwhole

end Course

/-- A prize for a round. -/
def roundPrize : PrizeSetting := ⟨1, 1, .round, 1, 1001, none⟩

/-- Players 10 and 11 lead a round with the same points. -/
def tiedStore : Store :=
  { Store.empty with
    rounds := [⟨1, 1, 4, .newYear2025, .newYear2025, .completed, some .newYear2025⟩]
    leagues := [⟨1, 1, .newYear2025, 5, 3, 0⟩]
    members := [⟨1, 1, 10, .approved⟩, ⟨2, 1, 11, .approved⟩]
    prizeSettings := [roundPrize]
    leagueResults := [⟨1, 1, 1, 10, 5, 5, false, none, 1⟩, ⟨2, 1, 1, 11, 5, 5, false, none, 1⟩] }

/-- The prizes of the round are paid. -/
def payRound : Call := .payPrizes 1 1 .newYear2025

/-- After the tie was paid, player 11 loses points. -/
def untiedStore : Store :=
  { payRound.after tiedStore with
    leagueResults := [⟨1, 1, 1, 10, 5, 5, false, none, 1⟩, ⟨2, 1, 1, 11, 3, 3, false, none, 0⟩] }

theorem untied_paid_once :
    ([roundPrize].map (·.id)).Nodup ∧ (∀ setting ∈ [roundPrize], Payable setting) ∧
      Course [roundPrize] (payRound.after untiedStore) ∧
      (recorded untiedStore.winnings 1 (.round 4)).map Winning.share = [(10, 501), (11, 500)] ∧
      (recorded (payRound.after untiedStore).winnings 1 (.round 4)).map Winning.share =
        [(10, 1001)] ∧
      (recorded (payRound.after untiedStore).winnings 1 (.round 4) = [] ∨
        ((recorded (payRound.after untiedStore).winnings 1 (.round 4)).map (·.amount)).sum = 1001 ∧
        ((recorded (payRound.after untiedStore).winnings 1 (.round 4)).map (·.userId)).Nodup) := by
  have hids : ([roundPrize].map (·.id)).Nodup := by decide
  have hpayable : ∀ setting ∈ [roundPrize], Payable setting := by
    simp [Payable, roundPrize]
  have htied : Course [roundPrize] (payRound.after tiedStore) := .call payRound (.start rfl rfl)
  have huntied : Course [roundPrize] (payRound.after untiedStore) :=
    .call payRound (.change htied rfl rfl)
  exact ⟨hids, hpayable, huntied, rfl, rfl,
    (huntied.paid_once hids hpayable).1 roundPrize List.mem_cons_self (.round 4) rfl⟩

end Prize

end PredictionLeague
