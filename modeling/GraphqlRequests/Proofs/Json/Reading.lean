import GraphqlRequests.Json.Reader
import GraphqlRequests.Proofs.Outcome
import GraphqlRequests.Proofs.Text.Split

/-!
# Texts that are read alike

Between values a line break is blank in any of its forms, and within texts in none of them allowed.
So a file is read as what was written to it, though its line breaks are normalized first. A text
that comes by its code points is read as the text itself.
-/

namespace GraphqlRequests.Json

variable {dialect : Dialect} {lexer next : Lexer} {tokens : List Token}

/-! ### Line breaks -/

namespace Lexer

theorem step_carriage (lexer : Lexer) : lexer.step '\r' = lexer.step '\n' := by
  cases lexer <;> rfl

theorem eq_idle_of_step_break (done : lexer.step '\n' = some (next, tokens)) : next = .idle := by
  cases lexer with
  | idle => exact (Prod.mk.inj (Option.some.inj done)).1.symm
  | bare => exact (Prod.mk.inj (Option.some.inj done)).1.symm
  | text => cases done
  | escape => cases done
  | code => cases done

end Lexer

namespace Reader

theorem step_carriage (reader : Reader) :
    reader.step dialect '\r' = reader.step dialect '\n' := by
  unfold step
  rw [Lexer.step_carriage]

theorem step_break_twice {reader after : Reader} (done : reader.step dialect '\n' = .ok after) :
    after.step dialect '\n' = .ok after := by
  unfold step take at done
  split at done
  · cases done
  · next lexer tokens lexed =>
    obtain ⟨builder, -, done⟩ := bind_ok done
    obtain rfl := Except.ok.inj done
    obtain rfl := Lexer.eq_idle_of_step_break lexed
    rfl

theorem foldlM_normalizeBreaks (reader : Reader) (chars : List Char) :
    (Text.normalizeBreaks chars).foldlM (step dialect) reader
      = chars.foldlM (step dialect) reader := by
  fun_induction Text.normalizeBreaks chars generalizing reader with
  | case1 rest ih =>
    rw [List.foldlM_cons, List.foldlM_cons, step_carriage]
    cases first : reader.step dialect '\n' with
    | error => rfl
    | ok after =>
      -- A second line feed changes nothing where the first one has been read.
      have second : after.step dialect '\n' = .ok after := step_break_twice first
      change _ = ('\n' :: rest).foldlM (step dialect) after
      rw [List.foldlM_cons, second]
      exact ih after
  | case2 rest _ ih =>
    rw [List.foldlM_cons, List.foldlM_cons, step_carriage]
    cases reader.step dialect '\n' with
    | error => rfl
    | ok after => exact ih after
  | case3 c rest _ _ ih =>
    rw [List.foldlM_cons, List.foldlM_cons]
    cases reader.step dialect c with
    | error => rfl
    | ok after => exact ih after
  | case4 => rfl

end Reader

theorem read_normalizeBreaks (dialect : Dialect) (text : String) :
    read dialect (String.ofList (Text.normalizeBreaks text.toList)) = read dialect text := by
  unfold read
  rw [String.toList_ofList, Reader.foldlM_normalizeBreaks]

/-! ### Code points -/

theorem isHalf_toNat (c : Char) : Text.isHalf c.toNat = false := by
  have valid : c.toNat < 0xD800 ∨ 0xDFFF < c.toNat ∧ c.toNat < 0x110000 := c.valid
  unfold Text.isHalf
  rcases valid with low | high
  · simp
    omega
  · simp
    omega

theorem Lexer.stepPoint_toNat (lexer : Lexer) (c : Char) :
    lexer.stepPoint c.toNat = lexer.step c := by
  have mended : mendedChar c.toNat = c := by
    rw [mendedChar, isHalf_toNat, if_neg Bool.false_ne_true, Char.ofNat_toNat]
  cases lexer with
  | text units => simp only [stepPoint, isHalf_toNat, Bool.false_eq_true, if_false, Char.ofNat_toNat]
  | idle | escape | code | bare => simp only [stepPoint, mended]

theorem readPoints_toNat (dialect : Dialect) (text : String) :
    readPoints dialect (text.toList.map (·.toNat)) = read dialect text := by
  have step : ∀ (reader : Reader) (c : Char),
      reader.stepPoint dialect c.toNat = reader.step dialect c := fun reader c =>
    congrArg (reader.take dialect) (Lexer.stepPoint_toNat reader.lexer c)
  unfold readPoints read
  rw [List.foldlM_map]
  simp only [step]

end GraphqlRequests.Json
