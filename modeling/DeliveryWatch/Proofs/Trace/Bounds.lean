/-
The times of any message, whatever its trace fields hold, and the bounds of its delay.

* `IsTraceTime` — what the times of trace fields are like; `isTraceTime_of_mem` — all of them are so;
* `messageDelay_le` — so the delay is that of 9900 years and two zones at most;
* `delay_of_any_message` — every message has a delay in these bounds, and no delivery of a message is too
  large to be written.
-/
import DeliveryWatch.Proofs.Ledger.Contract
import DeliveryWatch.Proofs.Trace.Reading

namespace DeliveryWatch.Trace

open Ledger

/-- A time as trace fields have them: a date of the years 100 to 9999 in whole seconds, whose zone is
known and less than a day. -/
structure IsTraceTime (t : Time) : Prop where
  year_ge : 100 ≤ t.year
  year_le : t.year ≤ 9999
  microsecond : t.microsecond = 0
  zone : ∃ z, t.offset = some z ∧ z.natAbs < 86400

/-- The year of a stamp has no sign, and two digits of it stand for a later year. -/
theorem le_year_of_readTime {value : String} {t : Time} (h : readTime value = .ok t) : 100 ≤ t.year := by
  rw [readTime] at h
  split at h
  · cases h
  · rename_i stamp hstamp
    obtain ⟨d, hd, rfl⟩ := exists_stamp_of_lastStamp? hstamp
    simp only [MailDate.timeOf, String.toList_ofList] at h
    split at h
    · rename_i u hu
      cases h
      split at hu
      · rename_i date hdate
        obtain ⟨-, rfl⟩ := MailDate.time?_eq_ok.mp hu
        -- a stamp writes its year with digits, so two-digit years are completed
        have hyear := MailDate.le_year_of_read? hd.words_text hd.year.chars hdate
        show 100 ≤ date.year.toNat
        omega
      · cases hu
    · cases h

theorem isTraceTime_of_mem {raw : String} {t : Time} (h : t ∈ receivedTimes raw) : IsTraceTime t := by
  have hrange := receivedTimes_inRange h
  obtain ⟨z, hz⟩ := Option.isSome_iff_exists.mp (receivedTimes_isZoned h)
  obtain ⟨value, -, hvalue⟩ := List.mem_filterMap.mp h
  have hread : readTime value = .ok t := by
    cases hr : readTime value with
    | error f =>
      rw [hr] at hvalue
      cases hvalue
    | ok u =>
      rw [hr] at hvalue
      cases hvalue
      rfl
  refine ⟨le_year_of_readTime hread, hrange.year_le, hrange.microsecond_eq, z, hz, ?_⟩
  have hoffset := hrange.offset_lt
  rwa [hz] at hoffset

/-- The delay of a message has a bound. -/
theorem messageDelay_le {raw : String} {n : Nat} (h : messageDelay raw = .ok n) : n ≤ 315538070279 := by
  have hlow : ∀ t ∈ receivedTimes raw, 3124137601000000 ≤ t.instant := fun t ht =>
    (receivedTimes_inRange ht).le_instant (isTraceTime_of_mem ht).year_ge
  have hhigh : ∀ t ∈ receivedTimes raw, t.instant ≤ 315578764798000000 := fun t ht =>
    (receivedTimes_inRange ht).instant_le
  calc n ≤ wholeSeconds (315578764798000000 - 3124137601000000 : Int).toNat :=
      messageDelay_le_of_instant hlow hhigh h
    _ = 312454627197 := wholeSeconds_eq_div (.inr rfl)
    _ ≤ 315538070279 := by decide

/-- **Every message has a delay, and the delay has bounds.** All times of its trace fields have a year
from 100 to 9999, whole seconds, and a zone of less than a day, so they can be compared. The delay is at
most 315538070279 seconds, and a delivery with it is never refused because the number is too large. -/
theorem delay_of_any_message (raw : String) :
    (∀ t ∈ receivedTimes raw, IsTraceTime t) ∧ comparable ((receivedTimes raw).map readingOf) = true ∧
      ∃ n : Nat, messageDelay raw = .ok n ∧ n ≤ 315538070279 ∧
        ∀ token now, (Stage.delivery token raw now).delay = n ∧
          ∀ (p : PingTable) (db : Database),
            p.record (Stage.delivery token raw now) db ≠ .error .tooLarge := by
  have hdelay := messageDelay_eq_recordedDelay raw
  refine ⟨fun t ht => isTraceTime_of_mem ht, comparable_receivedTimes raw, Stage.recordedDelay raw, hdelay,
    messageDelay_le hdelay, fun token now => ⟨rfl, fun p db h => ?_⟩⟩
  -- a number that is too large would have no place in a cell
  obtain ⟨hlarge, -⟩ := PingTable.update_eq_tooLarge.mp (PingTable.record_eq_tooLarge.mp h)
  have hfits : Database.fitsCell (Stage.delivery token raw now).delay = true :=
    fitsCell_recordedDelay raw
  rw [hfits] at hlarge
  cases hlarge

end DeliveryWatch.Trace
