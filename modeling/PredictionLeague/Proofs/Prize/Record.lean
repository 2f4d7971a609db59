import PredictionLeague.Proofs.Prize.Award

/-!
# Recording awards

What the winnings are after awards were recorded one after the other.

* `Prize.recorded`: the winnings of a setting for a period, and what one award does to them
  (`recorded_kept_self`, `recorded_kept_other`, `shares_paid_self`, `recorded_paid_other`);
* `shares_recordAwards`: the last award of a setting tells what is paid of it;
* `Winning.bare`: a winning without its id;
* `bare_recordAwards`, `recordAwards_twice`: the new winnings depend on the awards alone, so the
  same awards recorded again change nothing but ids.
-/

namespace PredictionLeague

/-- Who won, and how much. -/
def Winning.share (w : Winning) : Int × Int := (w.userId, w.amount)

/-- A winning without its id. -/
def Winning.bare (w : Winning) : Winning := { w with id := 0 }

namespace Prize

/-- Who is paid, and how much. -/
def Payment.share (payment : Payment) : Int × Int := (payment.userId, payment.amount)

/-- The winnings of a setting for a period. -/
def recorded (winnings : List Winning) (settingId : Int) (period : Period) : List Winning :=
  winnings.filter fun w => w.settingId == settingId && period.covers w

theorem covers_winning (payment : Payment) (period : Period) (now : DateTime) (id : Int) :
    period.covers (payment.winning period now id) = true := by
  cases period with
  | round number => exact beq_self_eq_true (some number)
  | month number => exact beq_self_eq_true (some number)
  | season => rfl

section Record

variable {winnings : List Winning} {award : Award}

theorem recorded_append (ws ws' : List Winning) (id : Int) (period : Period) :
    recorded (ws ++ ws') id period = recorded ws id period ++ recorded ws' id period :=
  List.filter_append ..

/-- The winnings that an award replaces are gone. -/
theorem recorded_kept_self {id : Int} (hid : id ∈ award.settingIds) :
    recorded (award.kept winnings) id award.period = [] := by
  refine List.filter_eq_nil_iff.2 fun w hw hmatch => ?_
  simp only [Bool.and_eq_true, beq_iff_eq] at hmatch
  have hkept := List.of_mem_filter hw
  simp [Award.replaces, hmatch.1, hmatch.2, hid] at hkept

/-- The winnings of other settings and periods stay. -/
theorem recorded_kept_other {id : Int} {period : Period}
    (hother : ∀ w, w.settingId = id → period.covers w = true → award.replaces w = false) :
    recorded (award.kept winnings) id period = recorded winnings id period := by
  rw [recorded, Award.kept, List.filter_filter]
  refine List.filter_congr fun w _ => ?_
  by_cases hmatch : w.settingId = id ∧ period.covers w = true
  · simp [hmatch.1, hmatch.2, hother w hmatch.1 hmatch.2]
  · simp only [not_and, Bool.not_eq_true] at hmatch
    by_cases hid : w.settingId = id
    · simp [hid, hmatch hid]
    · simp [hid]

/-- The winnings of an award go to the settings that it pays. -/
theorem shares_paid_self (id : Int) (now : DateTime) :
    (recorded (award.paid now winnings) id award.period).map Winning.share =
      (award.payments.filter (·.settingId == id)).map Payment.share :=
  Table.map_filter_numbered _ _ _ _ _
    (fun payment n => by rw [covers_winning, Bool.and_true]; rfl) (fun _ _ => rfl)

theorem recorded_paid_other {id : Int} {period : Period} {now : DateTime}
    (hother : ∀ payment ∈ award.payments, payment.settingId = id → ∀ n,
      period.covers (payment.winning award.period now n) = false) :
    recorded (award.paid now winnings) id period = [] := by
  refine List.filter_eq_nil_iff.2 fun w hw hmatch => ?_
  obtain ⟨payment, hpayment, n, rfl⟩ := Table.mem_numbered hw
  simp only [Bool.and_eq_true, beq_iff_eq] at hmatch
  rw [hother payment hpayment hmatch.1 n] at hmatch
  exact absurd hmatch.2 (by simp)

/-- An award pays the settings whose winnings it replaces. -/
def Award.Known (award : Award) : Prop :=
  ∀ payment ∈ award.payments, payment.settingId ∈ award.settingIds

/-- An award leaves the settings alone that it is not about. -/
theorem recorded_award_other {id : Int} {period : Period} (hid : id ∉ award.settingIds)
    (hknown : award.Known) (now : DateTime) :
    recorded (award.kept winnings ++ award.paid now winnings) id period =
      recorded winnings id period := by
  have hkept : recorded (award.kept winnings) id period = recorded winnings id period := by
    refine recorded_kept_other fun w hw _ => ?_
    rw [Award.replaces, hw]
    simp [hid]
  have hpaid : recorded (award.paid now winnings) id period = [] := by
    refine recorded_paid_other fun payment hpayment hsame _ => ?_
    exact absurd (hsame ▸ hknown payment hpayment) hid
  rw [recorded_append, hkept, hpaid, List.append_nil]

end Record

/-! ### Several awards -/

theorem recordAwards_append (now : DateTime) (winnings : List Winning) (as bs : List Award) :
    (recordAwards now winnings (as ++ bs)).1 =
      (recordAwards now (recordAwards now winnings as).1 bs).1 := by
  induction as generalizing winnings with
  | nil => rfl
  | cons a as ih => exact ih (a.kept winnings ++ a.paid now winnings)

/-- The awards of a settlement pay the settings of their kind. -/
theorem known_awardOf (s : Store) (standings : Standings) (round : Round) (kind : PrizeKind)
    (settings : List PrizeSetting) : (awardOf s standings round kind settings).Known := by
  intro payment hpayment
  obtain ⟨setting, hsetting, hpaid⟩ := List.mem_flatMap.1 hpayment
  rw [(mem_paid hpaid).1]
  exact List.mem_map_of_mem ((payable_sublist settings kind).subset hsetting)

theorem recorded_recordAwards_other {id : Int} {period : Period} {as : List Award}
    (hother : ∀ a ∈ as, id ∉ a.settingIds) (hknown : ∀ a ∈ as, a.Known) (now : DateTime)
    (winnings : List Winning) :
    recorded (recordAwards now winnings as).1 id period = recorded winnings id period := by
  induction as generalizing winnings with
  | nil => rfl
  | cons a as ih =>
    obtain ⟨hid, hother⟩ := List.forall_mem_cons.1 hother
    obtain ⟨hfirst, hknown⟩ := List.forall_mem_cons.1 hknown
    exact (ih hother hknown _).trans (recorded_award_other hid hfirst now)

/-- The last award of a setting tells what is paid of it. -/
theorem shares_recordAwards {id : Int} {before after : List Award} {award : Award}
    (hid : id ∈ award.settingIds) (hother : ∀ a ∈ after, id ∉ a.settingIds)
    (hknown : ∀ a ∈ after, a.Known) (now : DateTime) (winnings : List Winning) :
    (recorded (recordAwards now winnings (before ++ award :: after)).1 id award.period).map
        Winning.share = (award.payments.filter (·.settingId == id)).map Payment.share := by
  rw [recordAwards_append]
  refine (congrArg (List.map Winning.share) (recorded_recordAwards_other hother hknown now
    (award.kept (recordAwards now winnings before).1 ++
      award.paid now (recordAwards now winnings before).1))).trans ?_
  rw [recorded_append, List.map_append, recorded_kept_self hid, shares_paid_self]
  rfl

/-- What an award replaces does not depend on ids. -/
theorem replaces_bare (award : Award) (w : Winning) : award.replaces w.bare = award.replaces w := by
  have hcovers : award.period.covers w.bare = award.period.covers w := by
    cases award.period <;> rfl
  rw [Award.replaces, hcovers]
  rfl

theorem any_replaces_bare (as : List Award) (w : Winning) :
    as.any (·.replaces w.bare) = as.any (·.replaces w) :=
  List.any_congr rfl fun a => replaces_bare a w

/-- The winnings that awards leave, without their ids. -/
def newRows (now : DateTime) : List Award → List Winning
  | [] => []
  | award :: awards =>
    (award.payments.map fun payment => payment.winning award.period now 0).filter
      (fun w => !awards.any (·.replaces w)) ++ newRows now awards

theorem bare_recordAwards (now : DateTime) (winnings : List Winning) (as : List Award) :
    (recordAwards now winnings as).1.map Winning.bare =
      (winnings.filter fun w => !as.any (·.replaces w)).map Winning.bare ++ newRows now as := by
  induction as generalizing winnings with
  | nil => simp [recordAwards, newRows]
  | cons a as ih =>
    have hold : ((a.kept winnings).filter fun w => !as.any (·.replaces w)) =
        winnings.filter fun w => !(a :: as).any (·.replaces w) := by
      rw [Award.kept, List.filter_filter]
      refine List.filter_congr fun w _ => ?_
      rw [List.any_cons, Bool.not_or, Bool.and_comm]
    have hnew : ((a.paid now winnings).filter fun w => !as.any (·.replaces w)).map Winning.bare =
        (a.payments.map fun payment => payment.winning a.period now 0).filter
          fun w => !as.any (·.replaces w) := by
      rw [List.filter_map]
      refine Table.map_filter_numbered _ _ _ _ _ (fun payment n => ?_) (fun _ _ => rfl)
      exact congrArg Bool.not (any_replaces_bare as (payment.winning a.period now n)).symm
    refine (ih (a.kept winnings ++ a.paid now winnings)).trans ?_
    rw [List.filter_append, List.map_append, hold, hnew, List.append_assoc, newRows]

/-- The winnings of awards are replaced when the same awards are recorded again. -/
theorem replaces_of_mem_newRows {now : DateTime} {as : List Award} (hknown : ∀ a ∈ as, a.Known)
    {w : Winning} (hw : w ∈ newRows now as) : ∃ a ∈ as, a.replaces w = true := by
  induction as with
  | nil => exact absurd hw (by simp [newRows])
  | cons a as ih =>
    rcases List.mem_append.1 hw with hw | hw
    · obtain ⟨payment, hpayment, rfl⟩ := List.mem_map.1 (List.mem_of_mem_filter hw)
      refine ⟨a, List.mem_cons_self, ?_⟩
      rw [Award.replaces, covers_winning, Bool.and_true, List.contains_iff_mem]
      exact hknown a List.mem_cons_self payment hpayment
    · obtain ⟨b, hb, hreplaces⟩ := ih (fun a ha => hknown a (List.mem_cons_of_mem _ ha)) hw
      exact ⟨b, List.mem_cons_of_mem _ hb, hreplaces⟩

/-- Recording the same awards again changes nothing but ids. -/
theorem recordAwards_twice {as : List Award} (hknown : ∀ a ∈ as, a.Known) (now : DateTime)
    {winnings winnings' : List Winning}
    (h : winnings'.map Winning.bare = (recordAwards now winnings as).1.map Winning.bare) :
    (recordAwards now winnings' as).1.map Winning.bare = winnings'.map Winning.bare := by
  -- Everything that the awards recorded is replaced, and what they do not replace stays.
  have hbare (ws : List Winning) : (ws.filter fun w => !as.any (·.replaces w)).map Winning.bare =
      (ws.map Winning.bare).filter fun w => !as.any (·.replaces w) := by
    rw [List.filter_map]
    congr 1
    exact List.filter_congr fun w _ => congrArg Bool.not (any_replaces_bare as w).symm
  have hnew : ((newRows now as).filter fun w => !as.any (·.replaces w)) = [] := by
    refine List.filter_eq_nil_iff.2 fun w hw hnot => ?_
    obtain ⟨a, ha, hreplaces⟩ := replaces_of_mem_newRows hknown hw
    have hany : as.any (·.replaces w) = true := List.any_eq_true.2 ⟨a, ha, hreplaces⟩
    simp [hany] at hnot
  rw [bare_recordAwards, hbare, h, bare_recordAwards, List.filter_append, hnew, List.append_nil,
    hbare, List.filter_filter]
  simp only [Bool.and_self]

end Prize

end PredictionLeague
