import GraphqlRequests.Proofs.Naming.Words
import GraphqlRequests.Proofs.Text.Blank

/-!
# Comments stay on one line

A comment is one line of bounded length, whatever its text is: where the collapsed text is no longer
than that, the comment has its words, and else it is the start of it, with three dots.
-/

namespace GraphqlRequests.Text

open Naming (Finder Replaced)

variable {s : List Char} {c : Char}

/-- Some white space, as much as there is, for which one blank stands. -/
def space? : Finder
  | [] => none
  | c :: rest => if isSpace c then some ([' '], rest.dropWhile isSpace) else none

/-- A character at which some reader of texts ends a line. -/
def isLineBreak (c : Char) : Bool :=
  c ∈ ['\n', '\x0b', '\x0c', '\r', '\x1c', '\x1d', '\x1e', '\u0085', '\u2028', '\u2029']

/-- The text without the blank that it starts with, if it does. -/
def dropBlank (s : List Char) : List Char :=
  if s.head? = some ' ' then s.tail else s

/-! ### The collapsed text -/

theorem replaced_collapse (s : List Char) : Replaced space? s (collapse s) := by
  match s with
  | [] => exact .done
  | c :: rest =>
    cases space : isSpace c with
    | true =>
      -- All of the white space goes at once, so the recursion is on the length.
      have shorter : (rest.dropWhile isSpace).length < (c :: rest).length :=
        Nat.lt_succ_of_le (List.dropWhile_sublist isSpace).length_le
      have found : space? (c :: rest) = some ([' '], rest.dropWhile isSpace) := if_pos space
      rw [collapse_cons_space space]
      exact .replace found (replaced_collapse (rest.dropWhile isSpace))
    | false =>
      have none : space? (c :: rest) = none := if_neg (Bool.eq_false_iff.mp space)
      rw [collapse_cons_other space]
      exact .keep none (replaced_collapse rest)
termination_by s.length
decreasing_by
  · exact Nat.lt_succ_self rest.length
  · exact shorter

theorem replaced_space_iff {line : List Char} : Replaced space? s line ↔ line = collapse s := by
  refine ⟨fun replaced => replaced.unique rfl (replaced_collapse s), ?_⟩
  rintro rfl
  exact replaced_collapse s

/-! ### The line of a comment -/

/-- Of single blanks, there is one at most to trim at the start. -/
theorem strip_eq_dropBlank (spaced : Spaced s) (ends : ∀ c ∈ s.getLast?, isSpace c = false) :
    strip s = dropBlank s := by
  cases s with
  | nil => rfl
  | cons c rest =>
    obtain ⟨blank, next, -⟩ := spaced_cons.mp spaced
    cases space : isSpace c with
    | false =>
      have other : (c :: rest).head? ≠ some ' ' := by
        rintro ⟨⟩
        cases space
      rw [dropBlank, if_neg other]
      exact strip_eq_self (by rintro d ⟨⟩; exact space) ends
    | true =>
      obtain rfl := blank space
      rw [strip_cons_space space, dropBlank, if_pos List.head?_cons, List.tail_cons]
      refine strip_eq_self (next space) fun d last => ends d ?_
      rw [List.getLast?_cons, Option.mem_def.mp last]
      rfl

theorem spaced_cut (spaced : Spaced s) (n : Nat) : Spaced (s.take n ++ ['.', '.', '.']) where
  blanks := by
    intro c member space
    rcases List.mem_append.mp member with front | dots
    · exact spaced.blanks c (List.mem_of_mem_take front) space
    · have dot : c = '.' := by simpa using dots
      subst dot
      cases space
  single := (spaced.single.take n).append (by decide) fun _ _ d first _ => by
    obtain rfl : '.' = d := Option.some.inj first
    rfl

theorem commentChars_of_le (short : (collapse s).length ≤ commentLimit) :
    commentChars s = strip (collapse s) := by
  rw [commentChars, if_neg (Nat.not_lt.mpr short)]

theorem commentChars_of_lt (long : commentLimit < (collapse s).length) :
    commentChars s = dropBlank ((collapse s).take 117 ++ ['.', '.', '.']) := by
  rw [commentChars, if_pos long]
  refine strip_eq_dropBlank (spaced_cut (spaced_collapse s) 117) fun c last => ?_
  obtain rfl : '.' = c := by simpa using last
  rfl

theorem oneLine_commentChars (s : List Char) : OneLine (commentChars s) := by
  rw [commentChars]
  split
  · exact oneLine_strip (spaced_cut (spaced_collapse s) _)
  · exact oneLine_strip (spaced_collapse s)

theorem oneLine_comment (text : String) : OneLine (comment text).toList := by
  rw [comment, String.toList_ofList]
  exact oneLine_commentChars text.toList

theorem length_commentChars_le (s : List Char) : (commentChars s).length ≤ commentLimit := by
  rw [commentChars]
  refine (isInfix_strip _).length_le.trans ?_
  split
  · simp [commentLimit]
  · next short => exact Nat.not_lt.mp short

theorem commentChars_eq_self (line : OneLine s) (short : s.length ≤ commentLimit) :
    commentChars s = s := by
  have collapsed := collapse_eq_self line.toSpaced
  rw [commentChars_of_le (by rwa [collapsed]), collapsed]
  exact strip_eq_self line.starts line.ends

theorem OneLine.no_break (line : OneLine s) : ∀ c ∈ s, isLineBreak c = false := by
  intro c member
  cases broken : isLineBreak c with
  | false => rfl
  | true =>
    have space : isSpace c = true := by
      simp only [isLineBreak, decide_eq_true_eq, List.mem_cons, List.not_mem_nil,
        or_false] at broken
      rcases broken with rfl | rfl | rfl | rfl | rfl | rfl | rfl | rfl | rfl | rfl <;> rfl
    obtain rfl := line.blanks c member space
    cases broken

/-- A comment is one line, without white space but for single blanks between other characters, so
nothing in it ends a line. It has at most 120 characters, and it is its own comment. Where the
collapsed text has no more than that, it has the words of the text, and else it is the first 117
characters of the collapsed text and three dots, without a blank at the start. -/
theorem comment_on_one_line (text : String) :
    OneLine (comment text).toList ∧ (∀ c ∈ (comment text).toList, isLineBreak c = false) ∧
    (comment text).length ≤ 120 ∧ comment (comment text) = comment text ∧
    ∃ line, (∀ other, Replaced space? text.toList other ↔ other = line) ∧
      (line.length ≤ 120 → words (comment text).toList = words text.toList) ∧
      (120 < line.length →
        (comment text).toList = dropBlank (line.take 117 ++ ['.', '.', '.'])) := by
  have line := oneLine_comment text
  have chars : (comment text).toList = commentChars text.toList := String.toList_ofList
  have short : (comment text).toList.length ≤ 120 := chars ▸ length_commentChars_le text.toList
  refine ⟨line, line.no_break, String.length_toList ▸ short, ?_, collapse text.toList,
    fun other => replaced_space_iff, fun few => ?_, fun many => ?_⟩
  · rw [comment, commentChars_eq_self line short, String.ofList_toList]
  · rw [chars, commentChars_of_le few, words_strip, words_collapse]
  · rw [chars, commentChars_of_lt many]

def harbourNote : String :=
  "\u2028\n" ++ String.ofList (List.replicate 115 'x') ++ "\t\u00a0and so on"

theorem comment_on_one_line_of_harbour :
    (120 < (collapse harbourNote.toList).length ∧
      comment harbourNote = String.ofList (List.replicate 115 'x') ++ " ...") ∧
    (collapse " Berths\r\n  by pier\u2029".toList).length ≤ 120 ∧
      words (comment " Berths\r\n  by pier\u2029").toList
        = ["Berths".toList, "by".toList, "pier".toList] := by
  obtain ⟨-, -, -, -, line, only, -, cut⟩ := comment_on_one_line harbourNote
  obtain ⟨-, -, -, -, other, alone, kept, -⟩ := comment_on_one_line " Berths\r\n  by pier\u2029"
  obtain rfl := (only _).mp (replaced_collapse _)
  obtain rfl := (alone _).mp (replaced_collapse _)
  have long : 120 < (collapse harbourNote.toList).length := by decide +kernel
  have short : (collapse " Berths\r\n  by pier\u2029".toList).length ≤ 120 := by decide +kernel
  refine ⟨⟨long, String.toList_injective ?_⟩, short, (kept short).trans (by decide +kernel)⟩
  exact (cut long).trans (by decide +kernel)

end GraphqlRequests.Text
