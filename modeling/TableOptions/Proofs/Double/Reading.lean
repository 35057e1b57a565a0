import TableOptions.Double.Text
import TableOptions.Proofs.Double.Scaling
import TableOptions.Proofs.Text.Integer

/-!
# Doubles read back from their text

Reading a decimal in positional notation rounds that decimal (`Double.read?_signed_positional`), and
the decimal that a double is written with rounds to it, because the search for a short one accepts
nothing else and falls back to the exact one. So every double is read back from its text
(`Double.read?_text`), and an integer reads as the double nearest to it (`Double.read?_integerText`).
-/

namespace TableOptions

namespace Double

/-! ### Numbers without a sign -/

/-- A row of digits is taken whole. -/
theorem takeWhile_digits {digits : List Char} (h : ∀ c ∈ digits, c.isDigit = true) :
    digits.takeWhile Char.isDigit = digits := by
  calc digits.takeWhile Char.isDigit = (digits ++ []).takeWhile Char.isDigit := by
        rw [List.append_nil]
    _ = digits ++ [] := List.takeWhile_append_of_pos h
    _ = digits := List.append_nil digits

/-- Nothing is left behind a row of digits. -/
theorem dropWhile_digits {digits : List Char} (h : ∀ c ∈ digits, c.isDigit = true) :
    digits.dropWhile Char.isDigit = [] := by
  calc digits.dropWhile Char.isDigit = (digits ++ []).dropWhile Char.isDigit := by
        rw [List.append_nil]
    _ = [] := List.dropWhile_append_of_pos h

/-- A row of digits is a whole number. -/
theorem readUnsigned?_digits (negative : Bool) {digits : List Char} (hne : digits ≠ [])
    (hdigits : ∀ c ∈ digits, c.isDigit = true) :
    readUnsigned? negative digits = some (ofDecimal negative ⟨Text.ofDecimalDigits digits, 0⟩) := by
  have htake : digits.takeWhile Char.isDigit = digits := takeWhile_digits hdigits
  have hdrop : digits.dropWhile Char.isDigit = [] := dropWhile_digits hdigits
  have hempty : digits.isEmpty = false := by simpa using hne
  unfold readUnsigned?
  simp [htake, hdrop, hempty, readExponent?]

/-- Digits around a point are a decimal with as many places as digits follow the point. -/
theorem readUnsigned?_point (negative : Bool) {whole fraction : List Char} (hne : whole ≠ [])
    (hwhole : ∀ c ∈ whole, c.isDigit = true) (hfraction : ∀ c ∈ fraction, c.isDigit = true) :
    readUnsigned? negative (whole ++ '.' :: fraction) =
      some (ofDecimal negative
        ⟨Text.ofDecimalDigits (whole ++ fraction), -(fraction.length : Int)⟩) := by
  have htake : (whole ++ '.' :: fraction).takeWhile Char.isDigit = whole := by
    rw [List.takeWhile_append_of_pos hwhole, List.takeWhile_cons_of_neg (by decide), List.append_nil]
  have hdrop : (whole ++ '.' :: fraction).dropWhile Char.isDigit = '.' :: fraction := by
    rw [List.dropWhile_append_of_pos hwhole, List.dropWhile_cons_of_neg (by decide)]
  have htake' : fraction.takeWhile Char.isDigit = fraction := takeWhile_digits hfraction
  have hdrop' : fraction.dropWhile Char.isDigit = [] := dropWhile_digits hfraction
  have hempty : whole.isEmpty = false := by simpa using hne
  unfold readUnsigned?
  simp [htake, hdrop, htake', hdrop', hempty, readExponent?]

/-! ### The shape of positional notation -/

/-- A text that shows a decimal: a row of digits with the zeros of the exponent among them, or two
rows around a point, with as many digits after it as the exponent says. -/
inductive Shows (d : Decimal) : List Char → Prop
  | whole {digits : List Char} {zeros : Nat} (ne_nil : digits ≠ [])
      (isDigit : ∀ c ∈ digits, c.isDigit = true)
      (value : Text.ofDecimalDigits digits = d.digits * powerOfTen zeros)
      (exponent : d.exponent = zeros) : Shows d digits
  | point {whole fraction : List Char} (ne_nil : whole ≠ [])
      (isDigit : ∀ c ∈ whole ++ fraction, c.isDigit = true)
      (value : Text.ofDecimalDigits (whole ++ fraction) = d.digits)
      (exponent : d.exponent = -(fraction.length : Int)) : Shows d (whole ++ '.' :: fraction)

/-- Zeros before digits make a row of digits. -/
theorem isDigit_of_mem_zeros_append {n : Nat} {digits : List Char}
    (h : ∀ c ∈ digits, c.isDigit = true) :
    ∀ c ∈ List.replicate n '0' ++ digits, c.isDigit = true := by
  intro c hc
  rcases List.mem_append.1 hc with hmem | hmem
  · obtain rfl := List.eq_of_mem_replicate hmem
    rfl
  · exact h c hmem

/-- **Positional notation shows its decimal**: with zeros behind the digits, with the point among
them, or with zeros before them. -/
theorem shows_positional (d : Decimal) : Shows d d.positional := by
  obtain ⟨digits, exponent⟩ := d
  have hne := Text.decimalDigits_ne_nil digits
  have hall : ∀ c ∈ Text.decimalDigits digits, c.isDigit = true :=
    fun c => Text.isDigit_of_mem_decimalDigits
  have hnumber : Nat.ofDigitChars 10 (Text.decimalDigits digits) 0 = digits :=
    Text.ofDecimalDigits_decimalDigits digits
  cases exponent with
  | ofNat zeros =>
    unfold Decimal.positional
    dsimp only
    refine .whole (by simp [hne]) ?_ ?_ rfl
    · intro c hc
      have hzeros := isDigit_of_mem_zeros_append hall (n := zeros) c
      rw [List.mem_append] at hc hzeros
      exact hzeros hc.symm
    · rw [Text.ofDecimalDigits, Nat.ofDigitChars_append, hnumber, Nat.ofDigitChars_replicate_zero,
        Nat.mul_comm]
      rfl
  | negSucc e =>
    unfold Decimal.positional
    dsimp only
    split
    · rename_i hlt
      -- the point stands among the digits
      have hcut : (Text.decimalDigits digits).length - (e + 1) ≠ 0 := by omega
      refine .point (by simp [hne, hcut]) ?_ ?_ ?_
      · rw [List.take_append_drop]
        exact hall
      · rw [List.take_append_drop]
        exact hnumber
      · rw [List.length_drop, Int.negSucc_eq]
        dsimp only
        omega
    · rename_i hge
      -- all digits stand behind the point, with zeros between
      refine .point (List.cons_ne_nil '0' []) ?_ ?_ ?_
      · exact isDigit_of_mem_zeros_append (n := 1) (isDigit_of_mem_zeros_append hall)
      · rw [Text.ofDecimalDigits, List.singleton_append, Nat.ofDigitChars_cons,
          Nat.ofDigitChars_append, Nat.ofDigitChars_replicate_zero]
        simpa using hnumber
      · rw [List.length_append, List.length_replicate, Int.negSucc_eq]
        dsimp only
        omega

/-- **Positional notation reads as the decimal it shows**, rounded. -/
theorem readUnsigned?_positional (negative : Bool) (d : Decimal) :
    readUnsigned? negative d.positional = some (ofDecimal negative d) := by
  have hshows := shows_positional d
  obtain ⟨digits, exponent⟩ := d
  generalize Decimal.positional ⟨digits, exponent⟩ = s at hshows ⊢
  cases hshows with
  | whole ne_nil isDigit value exponent =>
    obtain rfl := exponent
    rw [readUnsigned?_digits negative ne_nil isDigit, value, ofDecimal_mul_powerOfTen, Int.zero_add]
  | point ne_nil isDigit value exponent =>
    obtain rfl := exponent
    rw [readUnsigned?_point negative ne_nil (fun c hc => isDigit c (List.mem_append_left _ hc))
      (fun c hc => isDigit c (List.mem_append_right _ hc)), value]

/-- Positional notation begins with a digit. -/
theorem exists_cons_positional (d : Decimal) :
    ∃ c rest, d.positional = c :: rest ∧ c.isDigit = true := by
  have hshows := shows_positional d
  generalize d.positional = s at hshows ⊢
  cases hshows with
  | whole ne_nil isDigit =>
    obtain ⟨c, rest, rfl⟩ := List.exists_cons_of_ne_nil ne_nil
    exact ⟨c, rest, rfl, isDigit c List.mem_cons_self⟩
  | point ne_nil isDigit =>
    obtain ⟨c, rest, rfl⟩ := List.exists_cons_of_ne_nil ne_nil
    exact ⟨c, _, rfl, isDigit c List.mem_cons_self⟩

/-- Positional notation has no blanks. -/
theorem isBlank_of_mem_positional {d : Decimal} {c : Char} (h : c ∈ d.positional) :
    Text.isBlank c = false := by
  have hshows := shows_positional d
  generalize d.positional = s at hshows h
  cases hshows with
  | whole ne_nil isDigit => exact Text.isBlank_of_isDigit (isDigit c h)
  | point ne_nil isDigit =>
    rcases List.mem_append.1 h with hmem | hmem
    · exact Text.isBlank_of_isDigit (isDigit c (List.mem_append_left _ hmem))
    · rcases List.mem_cons.1 hmem with rfl | hmem
      · rfl
      · exact Text.isBlank_of_isDigit (isDigit c (List.mem_append_right _ hmem))

/-! ### Signs -/

/-- What begins with a digit is read as a number without a sign. -/
theorem read?_of_isDigit {c : Char} (hc : c.isDigit = true) (rest : List Char) :
    read? (c :: rest) = readUnsigned? false (c :: rest) := by
  unfold read?
  split
  · rename_i heq
    obtain rfl := (List.cons.inj heq).1
    exact absurd hc (by decide)
  · rename_i heq
    obtain rfl := (List.cons.inj heq).1
    exact absurd hc (by decide)
  · rfl

/-- **A decimal in positional notation is read as the double nearest to it**, with its sign. -/
theorem read?_signed_positional (negative : Bool) (d : Decimal) :
    read? (signed negative d.positional) = some (ofDecimal negative d) := by
  cases negative with
  | true => exact readUnsigned?_positional true d
  | false =>
    obtain ⟨c, rest, hcons, hc⟩ := exists_cons_positional d
    have hread := readUnsigned?_positional false d
    rw [hcons] at hread
    rw [signed, if_neg Bool.false_ne_true, hcons, read?_of_isDigit hc]
    exact hread

/-! ### The decimal of a double -/

end Double

/-- A decimal that rounds to a count of units becomes the double of that count. -/
theorem Decimal.ofDecimal_of_roundsTo {d : Decimal} {units : Nat} (h : d.roundsTo units = true)
    (negative : Bool) (hunits : Representable units) :
    Double.ofDecimal negative d = .finite negative units hunits := by
  rw [Double.ofDecimal_withSign]
  unfold Decimal.roundsTo at h
  split at h
  · rename_i negative' found hfound heq
    obtain rfl : found = units := by simpa using h
    rw [heq]
    rfl
  · exact absurd h Bool.false_ne_true

/-- The decimal that is chosen from the two beside an exact one rounds to its units. -/
theorem Decimal.roundsTo_of_rounding? {units : Nat} {below above d : Decimal} {belowIsNearer : Bool}
    (h : rounding? units below above belowIsNearer = some d) : d.roundsTo units = true := by
  unfold rounding? at h
  split at h
  · rename_i hbelow habove
    split at h
    · obtain rfl := Option.some.inj h
      exact hbelow
    · obtain rfl := Option.some.inj h
      exact habove
  · rename_i hbelow habove
    obtain rfl := Option.some.inj h
    exact hbelow
  · rename_i hbelow habove
    obtain rfl := Option.some.inj h
    exact habove
  · exact absurd h (by simp)

/-- **The decimal a double is written with rounds to it.** -/
theorem ofDecimal_shortestDecimal (negative : Bool) {units : Nat} (hunits : Representable units)
    (hpos : units ≠ 0) :
    Double.ofDecimal negative (shortestDecimal units) = .finite negative units hunits := by
  unfold shortestDecimal
  dsimp only
  rw [Double.ofDecimal_normalize]
  cases hfound : (List.range 17).findSome? fun n =>
      decimalOfWidth? units (Decimal.width (exactDecimal units).digits) (n + 1) with
  | none => exact Double.ofDecimal_exactDecimal negative hunits hpos
  | some d =>
    obtain ⟨n, -, hd⟩ := List.exists_of_findSome?_eq_some hfound
    exact Decimal.ofDecimal_of_roundsTo (Decimal.roundsTo_of_rounding? hd) negative hunits

namespace Double

/-- **Every double is read back from its text.** -/
theorem read?_text (x : Double) : read? x.text = some x := by
  cases x with
  | nan => rfl
  | infinite negative => cases negative <;> rfl
  | finite negative units hunits =>
    rw [text]
    split
    · rename_i hzero
      subst hzero
      cases negative <;> rfl
    · rename_i hpos
      rw [read?_signed_positional, ofDecimal_shortestDecimal negative hunits hpos]

/-- The text of a double has no blanks. -/
theorem isBlank_of_mem_text {x : Double} {c : Char} (h : c ∈ x.text) : Text.isBlank c = false := by
  have hsigned : ∀ (negative : Bool) (magnitude : List Char),
      (∀ c ∈ magnitude, Text.isBlank c = false) → c ∈ signed negative magnitude →
        Text.isBlank c = false := by
    intro negative magnitude hall hmem
    cases negative with
    | false => exact hall c hmem
    | true =>
      rcases List.mem_cons.1 hmem with rfl | hmem
      · rfl
      · exact hall c hmem
  -- A check of the whole list, since deciding `∀ c ∈ s, _` may mean going through all characters.
  have hword : ∀ s : List Char, s.all (fun c => !Text.isBlank c) = true →
      ∀ c ∈ s, Text.isBlank c = false := by
    intro s hs c hc
    simpa using List.all_eq_true.1 hs c hc
  cases x with
  | nan => exact hword ['N', 'a', 'N'] rfl c h
  | infinite negative => exact hsigned negative _ (hword ['i', 'n', 'f'] rfl) h
  | finite negative units hunits =>
    refine hsigned negative _ ?_ h
    split
    · exact hword ['0'] rfl
    · exact fun c => isBlank_of_mem_positional

/-- An integer of at most 310 digits reads as the double nearest to it. -/
theorem read?_integerText {n : Int} (hn : n.natAbs < powerOfTen 310) :
    read? (Text.integerText n) = some (ofInt n) := by
  have hwidth : Decimal.width n.natAbs ≤ 310 := (Decimal.width_le_iff (by decide)).2 hn
  have hround : ∀ negative, ofDecimal negative ⟨n.natAbs, 0⟩ = ofRatio negative n.natAbs 1 := by
    intro negative
    by_cases hzero : n.natAbs = 0
    · rw [hzero, ofRatio_zero]
      rfl
    · have hpos := Decimal.width_pos n.natAbs
      rw [ofDecimal_eq_ofRatio negative hzero (by unfold Decimal.place; dsimp only; omega)
        (by unfold Decimal.place; dsimp only; omega)]
      exact congrArg (ofRatio negative · 1) (Nat.mul_one n.natAbs)
  have hshown : Text.decimalDigits n.natAbs = Decimal.positional ⟨n.natAbs, 0⟩ :=
    (List.append_nil _).symm
  have htext : Text.integerText n = signed (decide (n < 0)) (Decimal.positional ⟨n.natAbs, 0⟩) := by
    rw [← hshown, Text.integerText, signed]
    simp
  rw [htext, read?_signed_positional, hround, ofInt]

end Double

end TableOptions
