import VectorTrial.Proofs.Text.Reading
import VectorTrial.Proofs.Text.Searching
import VectorTrial.Proofs.Trial.Accounting

/-!
# Ranges that a user writes

A range is written as two numerals around a hyphen. There may be blanks around each of them, and
nothing else. Such a text is read if the numbers make a range of the catalog, and then as just this
range, which selects the instructions from the lower number up to the upper one. All other texts
are refused.

## Main definitions

* `VectorTrial.IndexRange.WritesBound` — the texts of a bound.
* `VectorTrial.IndexRange.Writes` — the texts of a range.

## Main results

* `VectorTrial.IndexRange.readBound_eq_ok_iff`, `VectorTrial.IndexRange.ofText_eq_ok_iff` — which
  bounds and ranges are read.
* `VectorTrial.IndexRange.ofText_eq_error` — how other texts are refused.
* `VectorTrial.IndexRange.ofText_exact` — ranges from their texts to the selected instructions.
-/

namespace VectorTrial.IndexRange

variable {text : String} {r : IndexRange}

/-! ### Bounds -/

/-- **Texts of bounds.** Between blanks, the text is a numeral of a number of 64 bits. -/
def WritesBound (cs : List Char) (n : Nat) : Prop :=
  ∃ before numeral after, cs = before ++ (numeral ++ after) ∧
    (∀ c ∈ before, Text.isBlank c = true) ∧ (∀ c ∈ after, Text.isBlank c = true) ∧
    Text.IsNumeral numeral n ∧ n < 2 ^ 64

/-- **Texts of ranges.** The first hyphen stands between the texts of the two bounds. -/
def Writes (text : String) (r : IndexRange) : Prop :=
  ∃ lower upper, text.toList = lower ++ '-' :: upper ∧ '-' ∉ lower ∧
    WritesBound lower r.start ∧ WritesBound upper r.stop

/-- **Reading bounds.** -/
theorem readBound_eq_ok_iff {which : String} {cs : List Char} {n : Nat} :
    readBound which cs = .ok n ↔ WritesBound cs n := by
  have hread : readBound which cs = .ok n ↔
      Text.readUnsigned? UInt64.size (Text.trim cs) = some n := by
    unfold readBound
    split
    · next n' hn' => rw [hn', Except.ok.injEq, Option.some.injEq]
    · next hnone =>
      rw [hnone]
      exact ⟨(nomatch ·), (nomatch ·)⟩
  rw [hread, Text.readUnsigned?_eq_some_iff]
  constructor
  · rintro ⟨hnumeral, hsize⟩
    obtain ⟨before, after, hcs, hbefore, hafter, -⟩ := Text.trim_eq_iff.1 (Eq.refl (Text.trim cs))
    exact ⟨before, Text.trim cs, after, hcs, hbefore, hafter, hnumeral, hsize⟩
  · rintro ⟨before, numeral, after, hcs, hbefore, hafter, hnumeral, hsize⟩
    rw [Text.trim_eq_iff.2 ⟨before, after, hcs, hbefore, hafter, hnumeral.isTrimmed⟩]
    exact ⟨hnumeral, hsize⟩

theorem readBound_eq_error {which : String} {cs : List Char} {e : Failure}
    (h : readBound which cs = .error e) : ∃ message, e = .config message := by
  unfold readBound at h
  split at h
  · cases h
  · cases h
    exact ⟨_, rfl⟩

/-! ### Ranges -/

theorem check_eq_error {e : Failure} (h : r.check = .error e) : ∃ message, e = .config message := by
  unfold check at h
  split_ifs at h
  · cases h
    exact ⟨_, rfl⟩
  · cases h
    exact ⟨_, rfl⟩

/-- **Reading ranges.** A text is read as a range exactly where it is one of its texts and the range
lies in the catalog. -/
theorem ofText_eq_ok_iff :
    ofText text = .ok r ↔ Writes text r ∧ r.start ≤ r.stop ∧ r.stop ≤ Catalog.size := by
  rw [← check_eq_ok_iff]
  constructor
  · intro h
    refine ⟨?_, check_ofText h⟩
    unfold ofText at h
    split at h
    · cases h
    · next lower upper hcut =>
      obtain ⟨start, hstart, h⟩ := bind_eq_ok.1 h
      obtain ⟨stop, hstop, h⟩ := bind_eq_ok.1 h
      obtain ⟨-, h⟩ := check_bind_eq_ok.1 h
      cases h
      obtain ⟨htext, hlower⟩ := Text.cutAt?_eq_some_iff.1 hcut
      exact ⟨lower, upper, htext, hlower, readBound_eq_ok_iff.1 hstart,
        readBound_eq_ok_iff.1 hstop⟩
  · rintro ⟨⟨lower, upper, htext, hlower, hstart, hstop⟩, hcheck⟩
    have hcut : Text.cutAt? '-' text.toList = some (lower, upper) :=
      Text.cutAt?_eq_some_iff.2 ⟨htext, hlower⟩
    unfold ofText
    simp only [hcut]
    exact bind_eq_ok.2 ⟨r.start, readBound_eq_ok_iff.2 hstart,
      bind_eq_ok.2 ⟨r.stop, readBound_eq_ok_iff.2 hstop, check_bind_eq_ok.2 ⟨hcheck, rfl⟩⟩⟩

/-- **Refusals.** Every text that is refused is refused as a part of the settings. -/
theorem ofText_eq_error {e : Failure} (h : ofText text = .error e) :
    ∃ message, e = .config message := by
  unfold ofText at h
  split at h
  · cases h
    exact ⟨_, rfl⟩
  · rcases bind_eq_error.1 h with hlower | ⟨start, -, h⟩
    · exact readBound_eq_error hlower
    · rcases bind_eq_error.1 h with hupper | ⟨stop, -, h⟩
      · exact readBound_eq_error hupper
      · exact check_eq_error (bind_pure_eq_error.1 h)

/-- The numerals of two numbers with a hyphen between them are a text of their range. -/
theorem writes_repr {start stop : Nat} (hstart : start < 2 ^ 64) (hstop : stop < 2 ^ 64) :
    Writes (toString start ++ "-" ++ toString stop) ⟨start, stop⟩ := by
  have hbound {n : Nat} (h : n < 2 ^ 64) : WritesBound n.repr.toList n :=
    ⟨[], n.repr.toList, [], (List.append_nil _).symm, List.forall_mem_nil _,
      List.forall_mem_nil _, Text.isNumeral_repr n, h⟩
  refine ⟨start.repr.toList, stop.repr.toList, ?_, fun hhyphen => ?_, hbound hstart, hbound hstop⟩
  · rw [String.toList_append, String.toList_append, List.append_assoc]
    rfl
  · exact absurd (Text.isDigit_of_mem_repr hhyphen) (by decide)

/-- **Ranges.** A text is read as a range exactly where the first hyphen stands between the texts of
two bounds, each of them a numeral of 64 bits between blanks, and these make a range of the catalog.
Every other text is refused as a part of the settings. No settings with a range that was read are
refused for it, and they select the instructions from the lower bound up to the upper one, each once
and in catalog order. The numerals of the bounds of every range of the catalog, with a hyphen
between them, are read as this range. -/
theorem ofText_exact (text : String) :
    (∀ r, ofText text = .ok r ↔ Writes text r ∧ r.start ≤ r.stop ∧ r.stop ≤ Catalog.size) ∧
    ((¬ ∃ r, Writes text r ∧ r.start ≤ r.stop ∧ r.stop ≤ Catalog.size) →
      ∃ message, ofText text = .error (.config message)) ∧
    (∀ s : Settings, ofText text = .ok s.range →
      s.range.check = .ok () ∧ s.validate = Settings.checkModulus s.shiftModulus ∧
        s.instructions.map (fun i => i.index.val) =
          List.range' s.range.start (s.range.stop - s.range.start)) ∧
    ∀ start stop, start ≤ stop → stop ≤ Catalog.size →
      ofText (toString start ++ "-" ++ toString stop) = .ok ⟨start, stop⟩ := by
  refine ⟨fun r => ofText_eq_ok_iff, fun hnone => ?_, fun s hs => ?_,
    fun start stop hle hsize => ?_⟩
  · cases h : ofText text with
    | ok r => exact absurd ⟨r, ofText_eq_ok_iff.1 h⟩ hnone
    | error e =>
      obtain ⟨message, rfl⟩ := ofText_eq_error h
      exact ⟨message, rfl⟩
  · have hcheck := check_ofText hs
    refine ⟨hcheck, ?_, Settings.indices_of_check hcheck⟩
    rw [Settings.validate, hcheck]
    rfl
  · have hsmall : Catalog.size < 2 ^ 64 := by decide
    exact ofText_eq_ok_iff.2
      ⟨writes_repr (hle.trans_lt (hsize.trans_lt hsmall)) (hsize.trans_lt hsmall), hle, hsize⟩

/-- Blanks, a plus sign and leading zeros are read over, a second hyphen is not. -/
theorem ofText_exact_blanks :
    ofText " +07\t-\u00a09 " = .ok ⟨7, 9⟩ ∧
    (∀ s : Settings, s.range = ⟨7, 9⟩ →
      s.instructions.map (fun i => i.index.val) = [7, 8]) ∧
    (∃ message, ofText "3--5" = .error (.config message)) ∧
    ofText "10-40" = .ok ⟨10, 40⟩ := by
  have hblanks : ofText " +07\t-\u00a09 " = .ok ⟨7, 9⟩ := by decide +kernel
  obtain ⟨-, -, hselect, hdecimal⟩ := ofText_exact " +07\t-\u00a09 "
  obtain ⟨hread, hrefuse, -⟩ := ofText_exact "3--5"
  refine ⟨hblanks, fun s hs => ?_, hrefuse ?_, hdecimal 10 40 (by decide) (by decide)⟩
  · have hindices := (hselect s (hblanks.trans (congrArg Except.ok hs.symm))).2.2
    rw [hindices, hs]
    rfl
  · rintro ⟨r, hr⟩
    have hrefused : (ofText "3--5").toOption = none := by decide +kernel
    rw [(hread r).2 hr] at hrefused
    cases hrefused

end VectorTrial.IndexRange
