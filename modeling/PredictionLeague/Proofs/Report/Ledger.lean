import PredictionLeague.Proofs.Calls
import PredictionLeague.Proofs.Prize.Record
import PredictionLeague.Proofs.Report.Account

/-!
# A ledger that can be read

The report lists the winnings of round prizes by the number of their round and those of monthly
prizes under the name of their month, and asks no question first. It need not: what pays a prize
writes down the round or the month it pays for, whichever of the calls does it and however often.

* `PrizeKind.Dated`: a winning has the round or the month that its kind of prize is listed by;
* `Store.Readable`: every winning has its setting and is dated for it;
* `Prize.dated_awards`, `Store.Readable.recordAwards`: what is paid is dated;
* `Store.Edited`, `Report.History`: edits between calls, and where calls and edits lead to;
* `Report.History.readable`: along every history the ledger can be read;
* `Report.exists_report`, `report_never_fails`: so every league has its report at any time.
-/

namespace PredictionLeague

open Engine

/-- A winning has the round number, or the month, that a kind of prize is listed by. -/
def PrizeKind.Dated : PrizeKind → Winning → Prop
  | .round, w => w.roundNumber ≠ none
  | .monthly, w => ∃ month : Int, w.month = some month ∧ 1 ≤ month ∧ month ≤ 12
  | .overall, _ | .mostExactScores, _ => True

namespace Store

/-- Every winning is paid by a setting that is there, and dated for it. -/
def Readable (s : Store) : Prop :=
  ∀ w ∈ s.winnings, ∃ setting ∈ s.prizeSettings, setting.id = w.settingId ∧ setting.kind.Dated w

/-- The season of every league is there. -/
def Seasonal (s : Store) : Prop :=
  ∀ league ∈ s.leagues, ∃ season, s.season? league.seasonId = some season

/-- A store that was edited by hand: winnings are left alone, no setting is taken out or made one of
another kind, and the season of every league is there. -/
structure Edited (s t : Store) : Prop where
  keyed : t.Keyed
  seasonal : t.Seasonal
  winnings : t.winnings = s.winnings
  settings : ∀ setting ∈ s.prizeSettings, ∃ setting' ∈ t.prizeSettings,
    setting'.id = setting.id ∧ setting'.kind = setting.kind

instance (s : Store) : Decidable s.Seasonal :=
  decidable_of_iff (∀ league ∈ s.leagues, (s.season? league.seasonId).isSome = true) <|
    forall₂_congr fun _ _ => Option.isSome_iff_exists

end Store

/-- The stores that calls and edits lead to from a store without winnings. -/
inductive Report.History : Store → Prop
  | start {s : Store} (hs : s.Keyed) (hseasonal : s.Seasonal) (hwinnings : s.winnings = []) :
    History s
  | call {s : Store} (call : Call) (h : History s) : History (call.after s)
  | edit {s t : Store} (h : History s) (hedited : s.Edited t) : History t

/-! ### What is paid is dated -/

namespace Prize

/-- What is paid for the period of a round is dated: a round has its number, and a month is one of
twelve. -/
theorem dated_winning (payment : Payment) (round : Round) (kind : PrizeKind) (now : DateTime)
    (id : Int) : kind.Dated (payment.winning (periodOf round kind) now id) := by
  cases kind with
  | round => exact Option.some_ne_none round.number
  | monthly =>
    have hfirst := round.start.month_pos
    have hlast := round.start.month_le
    exact ⟨round.start.month, rfl, by omega, by omega⟩
  | overall => trivial
  | mostExactScores => trivial

/-- Every payment of an award is dated for a setting. -/
def Award.Dated (settings : List PrizeSetting) (award : Award) : Prop :=
  ∀ payment ∈ award.payments, ∃ setting ∈ settings, setting.id = payment.settingId ∧
    ∀ now id, setting.kind.Dated (payment.winning award.period now id)

/-- The awards of a settlement are dated. -/
theorem dated_awards {s : Store} {leagueId : Int} {standings : Standings} {round : Round}
    {season : Option Season} {list : List Award}
    (h : awards s (settingsOf s leagueId) standings round season = .ok list) :
    ∀ award ∈ list, award.Dated s.prizeSettings := by
  rw [awards_ok h]
  intro award haward payment hpayment
  obtain ⟨kind, -, rfl⟩ := List.mem_map.1 haward
  have hknown := known_awardOf s standings round kind _ payment hpayment
  obtain ⟨setting, hsetting, hid⟩ := List.mem_map.1 hknown
  obtain ⟨hleague, hkind⟩ := List.mem_filter.1 hsetting
  obtain rfl := beq_iff_eq.1 hkind
  refine ⟨setting, (mem_settingsOf.1 hleague).1, hid, fun now id => ?_⟩
  exact dated_winning payment round setting.kind now id

end Prize

namespace Store

variable {s t : Store}

/-- Recording dated awards keeps the ledger readable. -/
theorem Readable.recordAwards (h : s.Readable) {awards : List Prize.Award}
    (hdated : ∀ award ∈ awards, award.Dated s.prizeSettings) (now : DateTime) :
    (s.withAwards now awards).Readable := by
  induction awards generalizing s with
  | nil => exact h
  | cons award awards ih =>
    obtain ⟨hfirst, hrest⟩ := List.forall_mem_cons.1 hdated
    refine ih (s := { s with winnings := award.kept s.winnings ++ award.paid now s.winnings }) ?_
      hrest
    intro w hw
    rcases List.mem_append.1 hw with hkept | hpaid
    · exact h w (List.mem_of_mem_filter hkept)
    · obtain ⟨payment, hpayment, id, rfl⟩ := Table.mem_numbered hpaid
      obtain ⟨setting, hsetting, hid, hdated⟩ := hfirst payment hpayment
      exact ⟨setting, hsetting, hid, hdated now id⟩

/-- Only prizes are written to the ledger, and no call touches settings, leagues or seasons. -/
theorem readable_keptByWrites : KeptByWrites fun s => s.Readable ∧ s.Seasonal where
  recorded _ _ h := h
  status _ _ _ _ h := h
  rescored _ _ _ h := h
  counted _ _ h := h
  scored _ _ _ h := h
  boosted _ _ h := h
  snapshot _ _ h := h
  live _ _ _ h := h
  stable _ _ _ h := h
  paid _ _ _ now _ h hawards := ⟨h.1.recordAwards (Prize.dated_awards hawards) now, h.2⟩
  used _ _ _ _ _ _ h _ := h
  removed _ _ h := h

/-- An edit keeps the ledger readable: the setting of a winning may change, but not its kind. -/
theorem Readable.edited (h : s.Readable) (hedited : s.Edited t) : t.Readable := by
  intro w hw
  rw [hedited.winnings] at hw
  obtain ⟨setting, hsetting, hid, hdated⟩ := h w hw
  obtain ⟨setting', hsetting', hid', hkind⟩ := hedited.settings setting hsetting
  refine ⟨setting', hsetting', hid'.trans hid, ?_⟩
  rw [hkind]
  exact hdated

/-- A winning is dated for the setting that it names. -/
theorem Readable.dated (h : s.Readable) (hs : s.Keyed) {w : Winning} (hw : w ∈ s.winnings)
    {setting : PrizeSetting} (hsetting : setting ∈ s.prizeSettings)
    (hid : setting.id = w.settingId) : setting.kind.Dated w := by
  obtain ⟨other, hother, hsame, hdated⟩ := h w hw
  obtain rfl : other = setting :=
    hs.prizeSettings.eq_of_id_eq hother hsetting (hsame.trans hid.symm)
  exact hdated

theorem Readable.dated_of_kind (h : s.Readable) (hs : s.Keyed) {leagueId : Int} {kind : PrizeKind}
    {w : Winning} (hw : w ∈ s.winningsOfKind leagueId kind) : kind.Dated w := by
  obtain ⟨hmem, hpaid⟩ := List.mem_filter.1 hw
  obtain ⟨setting, hsetting, hid⟩ := List.mem_map.1 (paidByKind_iff.1 hpaid)
  obtain ⟨hstored, -, rfl⟩ := mem_settingsOfKind.1 hsetting
  exact h.dated hs hmem hstored hid

end Store

/-! ### Histories -/

namespace Report

variable {s : Store} {leagueId : Int} {league : League}

theorem History.keyed (h : History s) : s.Keyed := by
  induction h with
  | start hs => exact hs
  | call call _ ih => exact Call.keyed_after ih call
  | edit _ hedited => exact hedited.keyed

/-- Along every history the ledger can be read, and the season of every league is there. -/
theorem History.readable (h : History s) : s.Readable ∧ s.Seasonal := by
  induction h with
  | start _ hseasonal hwinnings =>
    refine ⟨fun w hw => ?_, hseasonal⟩
    rw [hwinnings] at hw
    exact absurd hw List.not_mem_nil
  | call call _ ih => exact Store.readable_keptByWrites.after call ih
  | edit _ hedited ih => exact ⟨ih.1.edited hedited, hedited.seasonal⟩

/-- Before its entry deadline, or without prizes, a league has a report without lines. -/
theorem exists_early {now : DateTime} (h : now.stamp < league.entryDeadline.stamp ∨
    s.prizesOf league.id = []) : ∃ report, ofStore s league now = .ok report := by
  have hearly : now.stamp < league.entryDeadline.stamp ∨ (s.prizesOf league.id).isEmpty := by
    rwa [List.isEmpty_iff]
  rw [ofStore, ← Store.prizesOf]
  simp only [if_pos hearly]
  exact ⟨_, rfl⟩

/-- When the ledger can be read, a league whose season is there has a report at any time. -/
theorem exists_report (hs : s.Keyed) (hreadable : s.Readable)
    (hseason : ∃ season, s.season? league.seasonId = some season)
    (hleague : fits leagueId = true ∧ s.league? leagueId = some league) (now : DateTime) :
    ∃ report, (getWinnings leagueId now).Returns s report s := by
  suffices h : ∃ report, ofStore s league now = .ok report by
    obtain ⟨report, hreport⟩ := h
    exact ⟨report, returns_getWinnings.2 ⟨league, hleague, hreport, rfl⟩⟩
  by_cases hearly : now.stamp < league.entryDeadline.stamp ∨ s.prizesOf league.id = []
  · exact exists_early hearly
  · obtain ⟨hdeadline, hprizes⟩ := not_or.1 hearly
    obtain ⟨season, hseason⟩ := hseason
    obtain ⟨rounds, hrounds, -⟩ := exists_roundPart hs hseason fun w hw =>
      hreadable.dated_of_kind hs hw
    obtain ⟨months, hmonths, -⟩ := exists_monthlyPart hs hseason fun w hw =>
      hreadable.dated_of_kind hs hw
    refine ⟨full s league rounds months, (ofStore_eq_ok rfl).2 ?_⟩
    exact ⟨Nat.not_lt.1 hdeadline, hprizes, rounds, hrounds, months, hmonths, rfl⟩

end Report

/-- From a store without winnings in which the season of every league is there, whatever calls are
made and however the store is edited between them, as long as settings stay and keep their kinds:
every league has a report at any time. Every winning of a round prize has a round number, and every
winning of a monthly prize one of the twelve months. -/
theorem report_never_fails {s : Store} (h : Report.History s) :
    (∀ leagueId league now, fits leagueId = true → s.league? leagueId = some league →
      ∃ report, (getWinnings leagueId now).Returns s report s) ∧
    ∀ w ∈ s.winnings, ∀ setting ∈ s.prizeSettings, setting.id = w.settingId →
      (setting.kind = .round → w.roundNumber ≠ none) ∧
        (setting.kind = .monthly →
          ∃ month : Int, w.month = some month ∧ 1 ≤ month ∧ month ≤ 12) := by
  obtain ⟨hreadable, hseasonal⟩ := h.readable
  constructor
  · intro leagueId league now hfits hleague
    have hmem : league ∈ s.leagues := ((Table.get?_eq_some h.keyed.leagues).1 hleague).1
    exact Report.exists_report h.keyed hreadable (hseasonal league hmem) ⟨hfits, hleague⟩ now
  · intro w hw setting hsetting hid
    have hdated := hreadable.dated h.keyed hw hsetting hid
    constructor
    · intro hkind
      rwa [hkind] at hdated
    · intro hkind
      rwa [hkind] at hdated

/-- The open round in a league with prizes for rounds and months. -/
def monthlyLeague : Store :=
  { openStore with
    prizeSettings := [⟨1, 1, .round, 1, 1000, none⟩, ⟨2, 1, .monthly, 1, 3000, none⟩] }

/-- The same once the round was completed. -/
def completedLeague : Store :=
  (Call.updateResults 1 fullTime.scores .newYear2025).after monthlyLeague

/-- The same with another monthly prize and one more setting. -/
def editedLeague : Store :=
  { completedLeague with
    prizeSettings := [⟨1, 1, .round, 1, 1000, none⟩, ⟨2, 1, .monthly, 1, 4000, some "Best month"⟩,
      ⟨3, 1, .overall, 1, 5000, none⟩] }

theorem history_editedLeague : Report.History editedLeague := by
  have hstart : Report.History monthlyLeague := .start (by decide) (by decide) rfl
  have hcompleted : Report.History completedLeague := hstart.call _
  refine hcompleted.edit ⟨by decide +kernel, by decide +kernel, by rw [editedLeague], ?_⟩
  have hsame : completedLeague.prizeSettings = monthlyLeague.prizeSettings := by decide +kernel
  rw [hsame]
  decide

theorem edited_league_reports :
    Report.History ((Call.settle 1 .june2025).after editedLeague) ∧
      ((Call.settle 1 .june2025).after editedLeague).winnings.map
        (fun w => (w.settingId, w.amount, w.roundNumber, w.month)) =
          [(1, 1000, some 1, none), (2, 4000, none, some 1)] ∧
      ∃ report, (getWinnings 1 .june2025).Returns ((Call.settle 1 .june2025).after editedLeague)
        report ((Call.settle 1 .june2025).after editedLeague) := by
  have hhistory := history_editedLeague.call (.settle 1 .june2025)
  refine ⟨hhistory, by decide +kernel, ?_⟩
  exact (report_never_fails hhistory).1 1 ⟨1, 1, .newYear2025, 5, 3, 0⟩ .june2025 rfl
    (by decide +kernel)

end PredictionLeague
