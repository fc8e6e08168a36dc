import GraphqlRequests.Proofs.Source.Lexing
import GraphqlRequests.Proofs.Text.Split
import GraphqlRequests.Text.Quoted

/-!
# Docstrings are literals

No three quotes stand together in an escaped text, and none stands at its end, so the literal ends
with its closing quotes. Line breaks may be normalized before or after escaping.
-/

namespace GraphqlRequests.Source

open Text
open Literal (bodyTo escapesHold)

/-! ### The end of a docstring -/

def quotesBefore : List Char → Nat
  | '"' :: rest => quotesBefore rest + 1
  | _ => 0

theorem quotesBefore_cons {c : Char} {rest : List Char}
    (apart : ∀ others, c = '"' → rest = '"' :: '"' :: others → False) :
    c = '"' → quotesBefore rest ≤ 1 := by
  rintro rfl
  unfold quotesBefore
  split
  · next others =>
    unfold quotesBefore
    split
    · next more => exact absurd rfl (apart more rfl)
    · omega
  · omega

/-- The escaped text is passed over: of three quotes together no one has been seen. -/
theorem bodyTo_escapeTriples (text : List Char) (seen : Nat) (body rest : List Char)
    (few : seen = 0 ∨ seen + quotesBefore text ≤ 2) (quoted : seen ≠ 0 → body.head? = some '"') :
    ∃ last, (last ≠ 0 → ((escapeTriples text).reverse ++ body).head? = some '"') ∧
      bodyTo '"' true seen body (escapeTriples text ++ rest)
        = bodyTo '"' true last ((escapeTriples text).reverse ++ body) rest := by
  fun_induction escapeTriples text generalizing seen body with
  | case1 text ih =>
    obtain ⟨last, ends, read⟩ := ih 0 ('"' :: '\\' :: '"' :: '\\' :: '"' :: '\\' :: body)
      (.inl rfl) (by simp)
    refine ⟨last, by simpa using ends, ?_⟩
    simpa [bodyTo] using read
  | case2 text ih =>
    obtain ⟨last, ends, read⟩ := ih 0 ('\\' :: '\\' :: body) (.inl rfl) (by simp)
    refine ⟨last, by simpa using ends, ?_⟩
    simpa [bodyTo] using read
  | case3 c text apart slash ih =>
    -- A quote that starts no triple adds to the quotes seen, and anything else ends them.
    by_cases quote : c = '"'
    · subst quote
      have short := quotesBefore_cons apart rfl
      rw [quotesBefore] at few
      obtain ⟨last, ends, read⟩ := ih (seen + 1) ('"' :: body) (.inr (by omega)) (by simp)
      refine ⟨last, by simpa using ends, ?_⟩
      have unfinished : seen ≠ 2 := by omega
      rw [List.cons_append, bodyTo]
      · simpa [unfinished] using read
      · simp
    · obtain ⟨last, ends, read⟩ := ih 0 (c :: body) (.inl rfl) (by simp)
      refine ⟨last, by simpa using ends, ?_⟩
      rw [List.cons_append, bodyTo]
      · simpa [quote] using read
      · exact fun _ _ same _ => slash same
  | case4 => exact ⟨seen, by simpa using quoted, rfl⟩

theorem escapesHold_escapeTriples (text rest : List Char) :
    escapesHold false (escapeTriples text ++ rest) = escapesHold false rest := by
  fun_induction escapeTriples text with
  | case1 text ih => simpa [escapesHold] using ih
  | case2 text ih => simpa [escapesHold] using ih
  | case3 c text _ slash ih =>
    rw [List.cons_append, escapesHold, ih]
    exact fun _ _ same _ => slash same
  | case4 => rfl

theorem escapesHold_docstringChars (text : List Char) :
    escapesHold false (docstringChars text) = true := by
  rw [docstringChars]
  split
  · rw [escapesHold_escapeTriples]
    rfl
  · have read := escapesHold_escapeTriples text []
    rwa [List.append_nil] at read

/-- The literal ends with its closing quotes, whatever follows them. -/
theorem body?_docstringChars (text rest : List Char) :
    Literal.body? ('"' :: '"' :: '"' :: (docstringChars text ++ '"' :: '"' :: '"' :: rest))
      = some (docstringChars text, rest) := by
  have ends : ∀ body, bodyTo '"' true 0 body ('"' :: '"' :: '"' :: rest)
      = some (body.reverse, rest) := by simp [bodyTo]
  rw [Literal.body?, if_pos rfl, if_pos rfl, docstringChars]
  split
  · obtain ⟨last, -, read⟩ := bodyTo_escapeTriples text 0 []
      (' ' :: '"' :: '"' :: '"' :: rest) (.inl rfl) (by simp)
    rw [List.append_assoc, List.singleton_append, read, bodyTo]
    · simp [ends]
    · simp
  · next plain =>
    obtain ⟨last, quoted, read⟩ := bodyTo_escapeTriples text 0 []
      ('"' :: '"' :: '"' :: rest) (.inl rfl) (by simp)
    have zero : last = 0 := by
      by_contra some
      exact plain (by simpa using quoted some)
    rw [read, zero, ends]
    simp

theorem isLiteral_docstringChars (text : List Char) :
    IsLiteral ('"' :: '"' :: '"' :: (docstringChars text ++ ['"', '"', '"'])) := by
  refine ⟨docstringChars text, rfl, escapesHold_docstringChars text, fun c rest _ _ => ?_⟩
  have read := body?_docstringChars text (c :: rest)
  rwa [show '"' :: '"' :: '"' :: (docstringChars text ++ '"' :: '"' :: '"' :: c :: rest)
    = '"' :: '"' :: '"' :: (docstringChars text ++ ['"', '"', '"']) ++ c :: rest by simp] at read

/-! ### Line breaks -/

theorem head?_escapeTriples {text : List Char} (first : (escapeTriples text).head? = some '\n') :
    ∃ rest, text = '\n' :: rest := by
  unfold escapeTriples at first
  split at first
  · cases first
  · cases first
  · next c rest _ _ => exact ⟨rest, by rw [Option.some.inj first]⟩
  · cases first

theorem escapeTriples_normalizeBreaks (text : List Char) :
    escapeTriples (normalizeBreaks text) = normalizeBreaks (escapeTriples text) := by
  fun_induction escapeTriples text with
  | case1 text ih => simp [escapeTriples, normalizeBreaks, ih]
  | case2 text ih => simp [escapeTriples, normalizeBreaks, ih]
  | case3 c text apart slash ih =>
    -- Only a carriage return is changed, together with a line feed right behind it.
    by_cases carriage : c = '\r'
    · subst carriage
      by_cases both : ∃ rest, text = '\n' :: rest
      · obtain ⟨rest, rfl⟩ := both
        simpa [escapeTriples, normalizeBreaks] using ih
      · have later : ∀ rest, escapeTriples text = '\n' :: rest → False :=
          fun rest same => both (head?_escapeTriples (by rw [same]; rfl))
        rw [normalizeBreaks.eq_2 _ fun rest same => both ⟨rest, same⟩, normalizeBreaks.eq_2 _ later,
          ← ih]
        simp [escapeTriples]
    · have single : ∀ rest : List Char, ∀ other : List Char, c = '\r' → rest = '\n' :: other → False :=
        fun _ _ same _ => carriage same
      rw [normalizeBreaks.eq_3 _ _ (single _) carriage, normalizeBreaks.eq_3 _ _ (single _) carriage, ← ih,
        escapeTriples]
      · intro others quote both
        obtain ⟨first, rfl, rest⟩ := exists_of_normalizeBreaks_eq_cons (by decide) both
        obtain ⟨second, rfl, -⟩ := exists_of_normalizeBreaks_eq_cons (by decide) rest
        exact apart second quote rfl
      · exact slash
  | case4 => rfl

theorem docstringChars_normalizeBreaks (text : List Char) :
    docstringChars (normalizeBreaks text) = normalizeBreaks (docstringChars text) := by
  have last : (normalizeBreaks (escapeTriples text)).getLast? = some '"'
      ↔ (escapeTriples text).getLast? = some '"' :=
    getLast?_normalizeBreaks_iff (by decide) (by decide)
  rw [docstringChars, docstringChars, escapeTriples_normalizeBreaks]
  simp only [last]
  split
  · rw [normalizeBreaks_append (.inr (by simp))]
    rfl
  · rfl

theorem notMem_docstringChars {c : Char} {text : List Char} (other : c ∉ ['\\', '"', ' '])
    (plain : c ∉ text) : c ∉ docstringChars text := by
  have escaped : c ∉ escapeTriples text := by
    fun_induction escapeTriples text with
    | case1 | case2 | case3 => simp_all
    | case4 => simp
  rw [docstringChars]
  split <;> simp_all

/-! ### Docstring lexemes -/

theorem docstringChars_eq_self {text : List Char} (quote : '"' ∉ text) (slash : '\\' ∉ text) :
    docstringChars text = text := by
  have escaped : escapeTriples text = text := by
    fun_induction escapeTriples text with
    | case1 | case2 => simp_all
    | case3 c rest _ _ ih =>
      rw [ih (fun member => quote (List.mem_cons_of_mem _ member))
        fun member => slash (List.mem_cons_of_mem _ member)]
    | case4 => rfl
  have ends : text.getLast? ≠ some '"' := fun last => quote (List.mem_of_getLast? last)
  rw [docstringChars, escaped, if_neg ends]

def tripleQuoted (body : List Char) : String :=
  String.ofList ('"' :: '"' :: '"' :: (body ++ ['"', '"', '"']))

theorem legal_docstringChars {text : List Char} (plain : '\r' ∉ text) :
    (Lexeme.literal (tripleQuoted (docstringChars text))).Legal := by
  rw [Lexeme.Legal, tripleQuoted, String.toList_ofList]
  refine ⟨isLiteral_docstringChars text, ?_⟩
  simpa using notMem_docstringChars (by decide) plain

end GraphqlRequests.Source
