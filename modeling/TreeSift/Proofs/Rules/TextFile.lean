/-
  TreeSift.Proofs.Rules.TextFile — a text of rules in a file.

  What is stored in UTF-8 is read as it was written (`decode_toUTF8`), save that a reader
  puts line feeds for carriage returns. That changes no line, so that the rules in a text
  file are the lines of the text (`readRuleLines_toUTF8`); and lists with the same lines
  are carried out alike (`Ruling.run_congr`).

    §1 Reading   `decode_toUTF8`, `readRuleLines_toUTF8`
    §2 Lists     `Ruling.run_congr`
    §3 Files     `text_file_as_text`
-/
import TreeSift.Proofs.Rules.Effects
import TreeSift.Proofs.Text.Lines
import TreeSift.Rules.File

namespace TreeSift

/-! ## §1 Reading -/

/-- A text is read as it was written. -/
theorem decode_toUTF8 (text : String) : Encoding.decode .utf8 text.toUTF8 = .ok text := by
  have read : String.fromUTF8? text.toUTF8 = some text := by
    simp only [String.fromUTF8?, String.toUTF8_eq_toByteArray, dif_pos text.isValidUTF8]
    rfl
  rw [Encoding.decode, Encoding.utf8Text, read]

/-- The rules in a file that holds a text, and is not a structured one, are its lines. -/
theorem readRuleLines_toUTF8 {d : Disk} {path encoding text : String}
    (stored : d.file? path = some text.toUTF8) (small : text.toUTF8.size ≤ maxRuleFileSize)
    (plain : isStructured path = false) (utf8 : Encoding.ofName? encoding = some .utf8) :
    readRuleLines d path encoding = .ok (Text.lines text) := by
  rw [readRuleLines_of_file stored, if_neg (Nat.not_lt.2 small), rulesOfContent, utf8]
  dsimp only
  rw [decode_toUTF8]
  dsimp only
  rw [rulesOfText, plain, Text.lines_plainBreaks]
  rfl

/-! ## §2 Lists -/

/-- Lists with the same lines do the same. -/
theorem Ruling.run_congr {σ : Type} (g : Ruling σ) (t : Tree) (root : Option Root)
    {rules others : RuleList} (same : rules.toLines = others.toLines) (s : Session σ) :
    g.run t root (some rules) s = g.run t root (some others) s := by
  rw [Ruling.run_some, Ruling.run_some]
  cases checkPlace t root with
  | error e => rfl
  | ok place =>
    show g.runBelow t place rules s = g.runBelow t place others s
    rw [Ruling.runBelow_eq, Ruling.runBelow_eq, same]

/-! ## §3 Files -/

/-- **A text of rules in a file is that text.** If a file holds a text in UTF-8, is not too
large and has no suffix of a structured text, then its rules are what the breaks of the text
cut it into, each of the ten kinds of break, and carriage returns with line feeds after them;
reading neither joins lines nor adds or drops one. And to carry out these rules is to carry
out the text, whatever the root is, whatever has been gathered and recorded before, and
whatever is done with custom rules. -/
theorem text_file_as_text {d : Disk} {path encoding text : String}
    (stored : d.file? path = some text.toUTF8) (small : text.toUTF8.size ≤ maxRuleFileSize)
    (plain : isStructured path = false) (utf8 : Encoding.ofName? encoding = some .utf8) :
    readRuleLines d path encoding = .ok (Text.lines text) ∧
    (∀ ls, Text.BreaksInto text.toList ls ↔ ls = Text.lines text) ∧
    ∀ {σ : Type} (g : Ruling σ) (t : Tree) (root : Option Root) (s : Session σ),
      g.run t root (some (.lines ((Text.lines text).map some))) s =
        g.run t root (some (.text text)) s := by
  refine ⟨readRuleLines_toUTF8 stored small plain utf8, ?_, ?_⟩
  · intro ls
    rw [Text.breaksInto_iff, eq_comm]
  · intro σ g t root s
    have same : (RuleList.lines ((Text.lines text).map some)).toLines =
        (RuleList.text text).toLines := rfl
    exact g.run_congr t root same s

/-- Rules between breaks of several kinds, one of them at the end. -/
def brokenText : String := "+wf:*\r\n\r-wf:a\x0b\n\u2028x\r"

/-- A pair is one break, and so is a carriage return alone; lines without a character are
lines. -/
theorem rules_between_breaks :
    readRuleLines (Disk.empty.write "rules.txt" (some brokenText.toUTF8)) "rules.txt" "UTF-8" =
      .ok ["+wf:*", "", "-wf:a", "", "", "x"] := by
  have lines : Text.lines brokenText = ["+wf:*", "", "-wf:a", "", "", "x"] := by decide +kernel
  rw [← lines]
  exact (text_file_as_text (by decide +kernel) (by decide +kernel) (by decide +kernel)
    (by decide +kernel)).1

end TreeSift
