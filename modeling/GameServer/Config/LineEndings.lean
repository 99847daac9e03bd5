import GameServer.Config.Settings
import Mathlib.Data.List.TakeWhile

/-!
# Line endings

`Trim` takes a carriage return off the end of a value, and the test for a header looks at the last
character of the line as it is.

## What goes wrong, and what does not

A carriage return at the end of a line changes nothing for an entry, a comment or an empty line
(`readLine_cr`), so the entries under one header are the same (`entriesOf_crlf`). But no line that
ends in one is a header (`readLine_cr_ne_header`): a file with CR LF has no sections, and `Load`
finds nothing to store (`load_crlf`).
-/

namespace Game

open Infra

/-- The text with CR LF for every LF. -/
def crlf (text : List Char) : List Char :=
  endWith ['\r'] '\n' text

/-! ## One line -/

variable {line key value : List Char}

theorem notMem_cr {c : Char} (h : c ∉ line) (hne : c ≠ '\r' := by decide) : c ∉ line ++ ['\r'] := by
  rw [List.mem_append, List.mem_singleton, not_or]
  exact ⟨h, hne⟩

theorem trim_cr (value : List Char) : trim (value ++ ['\r']) = trim value := by
  unfold trim
  rw [List.dropWhile_append]
  split
  · next h =>
    rw [List.isEmpty_iff.mp h]
    rfl
  · dsimp only
    rw [List.reverse_append, List.reverse_singleton, List.singleton_append,
      List.dropWhile_cons_of_pos (by decide)]

theorem splitKeyValue_of_notMem (h : ':' ∉ line) : splitKeyValue line = none := by
  have hdrop : line.dropWhile (· ≠ ':') = [] := by
    refine List.dropWhile_eq_nil_iff.mpr fun c hc => ?_
    exact decide_eq_true fun heq => h (heq ▸ hc)
  unfold splitKeyValue
  rw [hdrop]

theorem splitKeyValue_append (h : ':' ∉ key) (value : List Char) :
    splitKeyValue (key ++ ':' :: value) =
      if trim key = [] then none else some (trim key, trim value) := by
  have hall : ∀ c ∈ key, decide (c ≠ ':') = true := by
    intro c hc
    exact decide_eq_true fun heq => h (heq ▸ hc)
  unfold splitKeyValue
  rw [List.dropWhile_append_of_pos hall, List.takeWhile_append_of_pos hall,
    List.dropWhile_cons_of_neg (by decide), List.takeWhile_cons_of_neg (by decide),
    List.append_nil]

theorem splitKeyValue_cr (line : List Char) :
    splitKeyValue (line ++ ['\r']) = splitKeyValue line := by
  by_cases h : ':' ∈ line
  · obtain ⟨key, value, rfl, hkey⟩ := List.eq_append_cons_of_mem h
    rw [List.append_assoc, List.cons_append, splitKeyValue_append hkey, splitKeyValue_append hkey,
      trim_cr]
  · rw [splitKeyValue_of_notMem h, splitKeyValue_of_notMem (notMem_cr h)]

/-- **No header** ends in a carriage return. -/
theorem readLine_cr_ne_header (line : List Char) (name : String) :
    readLine (line ++ ['\r']) ≠ .header name := by
  unfold readLine
  rw [List.getLast?_concat]
  split
  · exact nofun
  · rw [if_neg fun h => absurd h.2 (by decide)]
    split
    · exact nofun
    · split <;> exact nofun

/-- **A line that is not a header** is the same with a carriage return. -/
theorem readLine_cr (h : ∀ name, readLine line ≠ .header name) :
    readLine (line ++ ['\r']) = readLine line := by
  by_cases hnil : line = []
  · rw [hnil]
    decide
  have hhead : (line ++ ['\r']).head? = line.head? := List.head?_append_of_ne_nil _ hnil
  unfold readLine at h ⊢
  rw [hhead, splitKeyValue_cr, List.getLast?_concat]
  by_cases hcomment : line = [] ∨ line.head? = some '#'
  · rw [if_pos hcomment, if_pos (Or.inr (hcomment.resolve_left hnil))]
  · rw [if_neg hcomment] at h ⊢
    by_cases hheader : line.head? ≠ some ' ' ∧ line.getLast? = some ':'
    · rw [if_pos hheader] at h
      exact absurd rfl (h _)
    · rw [if_neg hheader, if_neg fun hor => hcomment (Or.inr (hor.resolve_left (by simp))),
        if_neg fun hand => absurd hand.2 (by decide)]

/-! ## The whole file -/

/-- **Under one header** the two texts have the same entries. -/
theorem entriesOf_crlf {name : String} {text : List Char}
    (h : ∀ line ∈ lines '\n' text, ∀ name, readLine line ≠ .header name) :
    entriesOf name (lines '\n' (crlf text)) = entriesOf name (lines '\n' text) := by
  induction text using lines_induction '\n' with
  | last line hline => rw [crlf, endWith_of_notMem hline]
  | step line text hline ih =>
    have hcr : '\n' ∉ line ++ ['\r'] := notMem_cr hline
    rw [lines_append hline, List.forall_mem_cons] at h
    rw [crlf, endWith_append hline, lines_append hcr, lines_append hline, entriesOf, entriesOf,
      readLine_cr h.1]
    cases hkind : readLine line with
    | skipped => exact ih h.2
    | header name' => exact absurd hkind (h.1 name')
    | entry key value => exact congrArg _ (ih h.2)

namespace ConfigManager

variable {c : ConfigManager} {text : List Char}

/-- Without a header there is no section, and nothing is stored. -/
theorem loadLines_crlf (c : ConfigManager) (text : List Char) :
    c.loadLines "" (lines '\n' (crlf text)) = (c, .ok true) := by
  induction text using lines_induction '\n' with
  | last line h =>
    -- The last line has no ending and may be a header, but no entry follows.
    rw [crlf, endWith_of_notMem h]
    by_cases hnil : line = []
    · rw [hnil]
      rfl
    · rw [lines_of_notMem h hnil, loadLines]
      cases readLine line with
      | skipped => rfl
      | header name => rfl
      | entry key value => rfl
  | step line text h ih =>
    have hcr : '\n' ∉ line ++ ['\r'] := notMem_cr h
    rw [crlf, endWith_append h, lines_append hcr, loadLines]
    cases hline : readLine (line ++ ['\r']) with
    | skipped => exact ih
    | header name => exact absurd hline (readLine_cr_ne_header line name)
    | entry key value => exact ih

/-- **A file with CR LF changes nothing.** -/
theorem load_crlf (c : ConfigManager) (text : List Char) :
    c.load (some (crlf text)) = (c, .ok true) :=
  loadLines_crlf c text

/-- **The two files leave the same configuration** exactly if neither changes anything: every setting
that the text has an entry for has the value of its last entry already. -/
theorem lineEndings_iff (c : ConfigManager) (hvalid : ValidNumbers (entries text)) :
    (c.load (some (crlf text))).1 = (c.load (some text)).1 ↔ c.Agrees text := by
  rw [load_crlf, eq_comm]
  exact load_eq_self_iff hvalid

/-- The port of Redis that `config/server.yaml` sets. -/
def redisPortText : List Char :=
  "redis:\n  port: 6380\n".toList

theorem lineEndings_agreed :
    (({ redis := { port := 6380 } } : ConfigManager).load (some (crlf redisPortText))).1 =
      (({ redis := { port := 6380 } } : ConfigManager).load (some redisPortText)).1 :=
  (lineEndings_iff _ (by decide)).mpr (by decide)

/-- With the defaults, the file with CR LF leaves the port at 6379. -/
theorem lineEndings_counterexample : ¬ ∀ (c : ConfigManager) (text : List Char), '\r' ∉ text →
    ValidNumbers (entries text) →
      (c.load (some (crlf text))).1 = (c.load (some text)).1 := by
  intro h
  exact absurd (h {} redisPortText (by decide) (by decide)) (by decide)

end ConfigManager
end Game
