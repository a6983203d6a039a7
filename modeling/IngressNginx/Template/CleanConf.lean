import IngressNginx.Lib.Transducer
import IngressNginx.Lib.Lines
import Mathlib.Data.List.Chain
import Mathlib.Data.List.TakeWhile

/-!
# `cleanConf`

`cleanConf` (`template.go`) rewrites the rendered `nginx.conf` byte by byte before it is
written: it drops carriage returns, collapses runs of empty lines into one, and indents every
line with one tab per level of `{ }` nesting outside `#` comments. Across bytes it keeps the
nesting depth (which a `}` can make negative), whether the current line has started, whether
the last byte written began its line, and whether a comment is open.

Here the loop is a transducer over bytes (`step`), and `cleanConf` its run from the state the
function starts in. The `switch` of the loop is `switch`, over the classes of bytes it tells
apart (`Byte.of`).

Reading back what one byte wrote, from the state it was read in, writes the same bytes and
reaches the same state: the indentation tabs are dropped at the start of a line and written
again before the byte (`step_idem`). So `cleanConf` is idempotent (`cleanConf_idempotent`).
-/

namespace IngressNginx

namespace Template

namespace CleanConf

/-- `stateCode` and `stateComment`. -/
inductive Mode where
  | code
  | comment
deriving DecidableEq, Repr

/-- The bytes the `switch` of `cleanConf` tells apart. -/
inductive Byte where
  | openBrace
  | closeBrace
  | blank
  | cr
  | lf
  | hash
  | other
deriving DecidableEq, Repr

/-- The case of the `switch` a byte takes. -/
def Byte.of (c : UInt8) : Byte :=
  if c = '{'.toUInt8 then .openBrace
  else if c = '}'.toUInt8 then .closeBrace
  else if c = ' '.toUInt8 ∨ c = '\t'.toUInt8 then .blank
  else if c = '\r'.toUInt8 then .cr
  else if c = '\n'.toUInt8 then .lf
  else if c = '#'.toUInt8 then .hash
  else .other

/-- The variables of `cleanConf` kept across bytes. -/
structure State where
  depth : Int
  lineStarted : Bool
  emptyLineWritten : Bool
  mode : Mode
deriving DecidableEq, Repr

/-- The state `cleanConf` starts in. -/
def State.init : State := ⟨0, false, false, .code⟩

/-- `writeIndentOnEmptyLines`. -/
def writeIndentOnEmptyLines : Bool := true

/-- What the `switch` of `cleanConf` sets for one byte: whether the byte is written, the depth
its indentation uses (after the decrement of a `}`), and the depth, line flag and mode for the
next byte. -/
structure Switch where
  needOutput : Bool
  depth : Int
  nextDepth : Int
  nextLineStarted : Bool
  mode : Mode

/-- The `switch` of `cleanConf`. -/
def switch (s : State) (b : Byte) : Switch :=
  match s.mode, b with
  | .code, .openBrace => ⟨true, s.depth, s.depth + 1, true, .code⟩
  | .code, .closeBrace => ⟨true, s.depth - 1, s.depth - 1, true, .code⟩
  | .code, .blank => ⟨s.lineStarted, s.depth, s.depth, s.lineStarted, .code⟩
  | .code, .cr => ⟨false, s.depth, s.depth, s.lineStarted, .code⟩
  | .code, .lf => ⟨!(!s.lineStarted && s.emptyLineWritten), s.depth, s.depth, false, .code⟩
  | .code, .hash => ⟨true, s.depth, s.depth, true, .comment⟩
  | .code, .other => ⟨true, s.depth, s.depth, true, .code⟩
  | .comment, .cr => ⟨false, s.depth, s.depth, s.lineStarted, .comment⟩
  | .comment, .lf => ⟨true, s.depth, s.depth, false, .code⟩
  | .comment, _ => ⟨true, s.depth, s.depth, s.lineStarted, .comment⟩

/-- One byte of `cleanConf`: the next state and the bytes written, the indentation of a line
before its first byte. -/
def step (s : State) (c : UInt8) : State × List UInt8 :=
  let d := switch s (Byte.of c)
  if d.needOutput then
    let indent :=
      if !s.lineStarted && (writeIndentOnEmptyLines || c != '\n'.toUInt8) then
        List.replicate d.depth.toNat '\t'.toUInt8
      else []
    (⟨d.nextDepth, d.nextLineStarted, !s.lineStarted, d.mode⟩, indent ++ [c])
  else (⟨d.nextDepth, d.nextLineStarted, s.emptyLineWritten, d.mode⟩, [])

/-- `cleanConf(in, out)`: what it writes to `out`. -/
def cleanConf (input : List UInt8) : List UInt8 := (Transducer.run step State.init input).2

/-! ### One byte -/

/-- A comment is only open on a started line. -/
def State.Inv (s : State) : Prop := s.mode = .comment → s.lineStarted = true

lemma State.init_inv : State.init.Inv := by
  simp [State.Inv, State.init]

/-- The state after a byte, whether it is written or not. -/
lemma step_fst (s : State) (c : UInt8) :
    (step s c).1 =
      ⟨(switch s (Byte.of c)).nextDepth, (switch s (Byte.of c)).nextLineStarted,
        if (switch s (Byte.of c)).needOutput then !s.lineStarted else s.emptyLineWritten,
        (switch s (Byte.of c)).mode⟩ := by
  by_cases hn : (switch s (Byte.of c)).needOutput = true <;> simp [step, hn]

/-- The `switch` opens a comment only on a started line. -/
lemma switch_inv {s : State} (hs : s.Inv) (b : Byte) :
    (switch s b).mode = .comment → (switch s b).nextLineStarted = true := by
  obtain ⟨depth, lineStarted, emptyLineWritten, mode⟩ := s
  cases mode <;> cases b <;> simp_all [State.Inv, switch]

/-- A byte the `switch` does not write changes neither the depth, nor the line, nor the
mode. -/
lemma switch_of_needOutput_false {s : State} (hs : s.Inv) {b : Byte}
    (h : (switch s b).needOutput = false) :
    (switch s b).nextDepth = s.depth ∧ (switch s b).nextLineStarted = s.lineStarted ∧
      (switch s b).mode = s.mode := by
  obtain ⟨depth, lineStarted, emptyLineWritten, mode⟩ := s
  cases mode <;> cases b <;> cases lineStarted <;> simp_all [State.Inv, switch]

lemma step_inv (s : State) (c : UInt8) (hs : s.Inv) : (step s c).1.Inv := by
  rw [step_fst]
  exact switch_inv hs (Byte.of c)

/-- A byte that is not written leaves the state as it is. -/
lemma step_of_needOutput_false {s : State} {c : UInt8} (hs : s.Inv)
    (h : (switch s (Byte.of c)).needOutput = false) : step s c = (s, []) := by
  obtain ⟨hdepth, hline, hmode⟩ := switch_of_needOutput_false hs h
  have hfst : (step s c).1 = s := by
    rw [step_fst, hdepth, hline, hmode, h]
    rfl
  have hsnd : (step s c).2 = [] := by simp [step, h]
  exact Prod.ext hfst hsnd

lemma byteOf_tab : Byte.of '\t'.toUInt8 = .blank := by decide

/-- At the start of a line outside comments, indentation tabs are dropped. -/
lemma run_indent {s : State} (hcode : s.mode = .code) (hls : s.lineStarted = false) (k : Nat) :
    Transducer.run step s (List.replicate k '\t'.toUInt8) = (s, []) := by
  induction k with
  | zero => rfl
  | succ k ih =>
    have htab : step s '\t'.toUInt8 = (s, []) := by
      apply step_of_needOutput_false (fun h => by simp [hcode] at h)
      simp [switch, hcode, hls, byteOf_tab]
    rw [List.replicate_succ, Transducer.run_cons, htab, ih]
    rfl

/-- Reading back what one byte wrote, from the state it was read in, writes it again and
reaches the same state. -/
lemma step_idem {s : State} (hs : s.Inv) (c : UInt8) :
    Transducer.run step s (step s c).2 = step s c := by
  by_cases hn : (switch s (Byte.of c)).needOutput = true
  · by_cases hls : s.lineStarted = true
    · -- inside a line the byte is written alone
      have hout : (step s c).2 = [c] := by simp [step, hn, hls]
      rw [hout, Transducer.run_cons, Transducer.run_nil, List.append_nil]
    · -- at the start of a line the indentation is dropped and written again
      have hcode : s.mode = .code := by
        cases hmode : s.mode
        · rfl
        · exact absurd (hs hmode) hls
      have hls' : s.lineStarted = false := by simpa using hls
      have hout : (step s c).2 =
          List.replicate (switch s (Byte.of c)).depth.toNat '\t'.toUInt8 ++ [c] := by
        simp [step, hn, hls', writeIndentOnEmptyLines]
      rw [hout, Transducer.run_append, run_indent hcode hls', Transducer.run_cons,
        Transducer.run_nil, List.append_nil, List.nil_append]
  · rw [step_of_needOutput_false hs (by simpa using hn)]
    rfl

/-! ### Bytes and classes -/

lemma byteOf_eq_lf_iff (c : UInt8) : Byte.of c = .lf ↔ c = '\n'.toUInt8 := by
  constructor
  · intro h
    unfold Byte.of at h
    split_ifs at h
    simp_all
  · rintro rfl
    decide

lemma byteOf_eq_closeBrace_iff (c : UInt8) : Byte.of c = .closeBrace ↔ c = '}'.toUInt8 := by
  constructor
  · intro h
    unfold Byte.of at h
    split_ifs at h
    simp_all
  · rintro rfl
    decide

/-- Spaces, tabs, carriage returns and newlines. -/
def layoutByte (c : UInt8) : Bool :=
  c = ' '.toUInt8 || c = '\t'.toUInt8 || c = '\r'.toUInt8 || c = '\n'.toUInt8

lemma layoutByte_iff (c : UInt8) :
    layoutByte c = true ↔ Byte.of c = .blank ∨ Byte.of c = .cr ∨ Byte.of c = .lf := by
  unfold layoutByte Byte.of
  split_ifs <;> simp_all [Char.toUInt8]

/-! ### The `switch` -/

section Switch

variable {s : State}

/-- A newline ends the line and any comment, and leaves the depth alone. -/
lemma switch_lf (s : State) :
    (switch s .lf).nextLineStarted = false ∧ (switch s .lf).mode = .code ∧
      (switch s .lf).nextDepth = s.depth ∧ (switch s .lf).depth = s.depth := by
  cases hmode : s.mode <;> simp [switch, hmode]

/-- A byte other than a newline that is written starts or continues a line; it is no carriage
return, and no blank at the start of a line. -/
lemma switch_written {b : Byte} (hs : s.Inv) (hb : b ≠ .lf)
    (hn : (switch s b).needOutput = true) :
    (switch s b).nextLineStarted = true ∧ b ≠ .cr ∧ (s.lineStarted = false → b ≠ .blank) := by
  obtain ⟨depth, lineStarted, emptyLineWritten, mode⟩ := s
  cases mode <;> cases b <;> cases lineStarted <;> simp_all [State.Inv, switch]

/-- Outside comments a line is indented by the depth, one less for a `}`. -/
lemma switch_depth (hcode : s.mode = .code) (b : Byte) :
    (switch s b).depth = s.depth - if b = .closeBrace then 1 else 0 := by
  cases b <;> simp [switch, hcode]

end Switch

/-! ### The layout of the output -/

/-- The `{` and `}` outside comments, and the comments, as they change the nesting depth and the
mode. -/
def scanBrace : Int × Mode → Byte → Int × Mode
  | (d, .code), .openBrace => (d + 1, .code)
  | (d, .code), .closeBrace => (d - 1, .code)
  | (d, .code), .hash => (d, .comment)
  | (d, .comment), .lf => (d, .code)
  | x, _ => x

/-- The nesting depth at the end of a text, counting `{` and `}` outside `#` comments, and
whether a comment is open there. -/
def braces (t : List UInt8) : Int × Mode :=
  t.foldl (fun x c => scanBrace x (Byte.of c)) (0, .code)

/-- The indentation a line should have after the text `pre`: the depth there, one less when
the line starts with `}`. -/
def lineDepth (pre line : List UInt8) : Int :=
  (braces pre).1 -
    if (line.dropWhile (· == '\t'.toUInt8)).head? = some '}'.toUInt8 then 1 else 0

/-- A line after the text `pre` begins with exactly `lineDepth pre line` tabs, none when that
is negative. -/
def LineIndented (pre line : List UInt8) : Prop :=
  line.takeWhile (· == '\t'.toUInt8) = List.replicate (lineDepth pre line).toNat '\t'.toUInt8

/-- Every line of a list, after the text `pre` and the lines before it, is indented. -/
def Indented : List UInt8 → List (List UInt8) → Prop
  | _, [] => True
  | pre, l :: ls => LineIndented pre l ∧ Indented (pre ++ l ++ ['\n'.toUInt8]) ls

/-- A line made only of tabs. -/
def AllTabs (l : List UInt8) : Prop := ∀ b ∈ l, b = '\t'.toUInt8

/-- Two lines that are not both made only of tabs. -/
def NotBothBlank (l₁ l₂ : List UInt8) : Prop := ¬ (AllTabs l₁ ∧ AllTabs l₂)

lemma Indented.append {pre : List UInt8} {ls : List (List UInt8)} {l : List UInt8}
    (hls : Indented pre ls) (hl : LineIndented (pre ++ Lines.joinLines '\n'.toUInt8 ls) l) :
    Indented pre (ls ++ [l]) := by
  induction ls generalizing pre with
  | nil => simpa [Indented] using hl
  | cons l' ls ih =>
    refine ⟨hls.1, ih hls.2 ?_⟩
    simpa [Lines.joinLines, List.append_assoc] using hl

lemma scanBrace_blank (x : Int × Mode) : scanBrace x .blank = x := by
  obtain ⟨d, m⟩ := x
  cases m <;> rfl

/-- Indentation tabs change neither the depth nor the mode. -/
lemma braces_append_tabs (t : List UInt8) (k : Nat) :
    braces (t ++ List.replicate k '\t'.toUInt8) = braces t := by
  induction k with
  | zero => simp
  | succ k ih =>
    rw [List.replicate_succ', ← List.append_assoc, braces, List.foldl_append, ← braces, ih]
    simp [byteOf_tab, scanBrace_blank]

lemma braces_append_byte (t : List UInt8) (c : UInt8) :
    braces (t ++ [c]) = scanBrace (braces t) (Byte.of c) := by
  simp [braces]

/-- The scan of the output follows the depth and the mode of `cleanConf`. -/
lemma scanBrace_switch (s : State) (b : Byte) :
    scanBrace (s.depth, s.mode) b = ((switch s b).nextDepth, (switch s b).mode) := by
  cases hmode : s.mode <;> cases b <;> simp [scanBrace, switch, hmode]

/-- What `cleanConf` has written so far, as its complete lines and the line it is in. -/
structure Written where
  done : List (List UInt8)
  cur : List UInt8

/-- The bytes written. -/
def Written.text (w : Written) : List UInt8 := Lines.joinLines '\n'.toUInt8 w.done ++ w.cur

/-- How the state of `cleanConf` describes what it has written: whether the current line has
started, whether the last complete line is blank, the depth and mode of the text; the lines
written so far have no two blank lines in a row and are indented. -/
structure Fits (s : State) (w : Written) : Prop where
  done_noLf : ∀ l ∈ w.done, '\n'.toUInt8 ∉ l
  cur_noLf : '\n'.toUInt8 ∉ w.cur
  inv : s.Inv
  started : s.lineStarted = false ↔ w.cur = []
  cur_not_tabs : w.cur ≠ [] → ¬ AllTabs w.cur
  blank_last : s.lineStarted = false →
    (s.emptyLineWritten = true ↔ ∃ l ∈ w.done.getLast?, AllTabs l)
  chain : w.done.IsChain NotBothBlank
  scan : braces w.text = (s.depth, s.mode)
  indented : Indented [] w.done
  cur_indented : w.cur ≠ [] → LineIndented (Lines.joinLines '\n'.toUInt8 w.done) w.cur

lemma fits_init : Fits State.init ⟨[], []⟩ where
  done_noLf := by simp
  cur_noLf := by simp
  inv := State.init_inv
  started := by simp [State.init]
  cur_not_tabs := by simp
  blank_last := by simp [State.init]
  chain := List.IsChain.nil
  scan := rfl
  indented := trivial
  cur_indented := by simp

section Cases

variable {s : State} {w : Written}

lemma lf_ne_tab : '\n'.toUInt8 ≠ '\t'.toUInt8 := by decide

lemma allTabs_replicate (k : Nat) : AllTabs (List.replicate k '\t'.toUInt8) :=
  fun _ hb => List.eq_of_mem_replicate hb

lemma exists_not_tab {l : List UInt8} (h : ¬ AllTabs l) :
    ∃ b ∈ l, (b == '\t'.toUInt8) = false := by
  by_contra hcon
  apply h
  intro b hb
  by_contra hne
  exact hcon ⟨b, hb, by simpa using hne⟩

/-- A line that is not blank can follow any line. -/
lemma chain_append_line {done : List (List UInt8)} {l : List UInt8}
    (hchain : done.IsChain NotBothBlank) (hl : ¬ AllTabs l ∨ ∀ x ∈ done.getLast?, ¬ AllTabs x) :
    (done ++ [l]).IsChain NotBothBlank := by
  apply hchain.append (List.isChain_singleton l)
  intro x hx y hy
  rw [List.head?_singleton, Option.mem_some_iff] at hy
  subst hy
  rcases hl with hl | hl
  · exact fun h => hl h.2
  · exact fun h => hl x hx h.1

lemma Fits.cur_ne_nil (hf : Fits s w) (hls : s.lineStarted = true) : w.cur ≠ [] :=
  fun h => by simp [hf.started.mpr h] at hls

lemma Fits.mode_code (hf : Fits s w) (hls : s.lineStarted = false) : s.mode = .code := by
  cases hmode : s.mode
  · rfl
  · simp [hf.inv hmode] at hls

/-- A line without a newline, added to the finished lines, keeps them free of newlines. -/
lemma Fits.done_append_noLf (hf : Fits s w) {line : List UInt8} (hline : '\n'.toUInt8 ∉ line) :
    ∀ l ∈ w.done ++ [line], '\n'.toUInt8 ∉ l := by
  intro l hl
  rcases List.mem_append.mp hl with hl | hl
  · exact hf.done_noLf l hl
  · rw [List.mem_singleton.mp hl]
    exact hline

/-- A newline written on a started line ends it. -/
lemma Fits.closeLine (hf : Fits s w) (hls : s.lineStarted = true) :
    Fits ⟨s.depth, false, false, .code⟩ ⟨w.done ++ [w.cur], []⟩ := by
  have hcur := hf.cur_ne_nil hls
  have hnot := hf.cur_not_tabs hcur
  refine ⟨hf.done_append_noLf hf.cur_noLf, by simp, by simp [State.Inv], by simp, by simp, ?_,
    chain_append_line hf.chain (.inl hnot), ?_,
    hf.indented.append (by simpa using hf.cur_indented hcur), by simp⟩
  · simpa using hnot
  · have htext : (⟨w.done ++ [w.cur], []⟩ : Written).text = w.text ++ ['\n'.toUInt8] := by
      simp [Written.text, Lines.joinLines_append]
    obtain ⟨-, hmode, hdepth, -⟩ := switch_lf s
    rw [htext, braces_append_byte, hf.scan, (byteOf_eq_lf_iff _).mpr rfl, scanBrace_switch,
      hmode, hdepth]

/-- A newline at the start of a line after a line that is not blank writes a blank line, of
the indentation of the depth. -/
lemma Fits.blankLine (hf : Fits s w) (hls : s.lineStarted = false)
    (hempty : s.emptyLineWritten = false) :
    Fits ⟨s.depth, false, true, .code⟩
      ⟨w.done ++ [List.replicate s.depth.toNat '\t'.toUInt8], []⟩ := by
  have hcur : w.cur = [] := hf.started.mp hls
  have hmode := hf.mode_code hls
  have hlast : ∀ x ∈ w.done.getLast?, ¬ AllTabs x := fun x hx htabs =>
    absurd ((hf.blank_last hls).mpr ⟨x, hx, htabs⟩) (by simp [hempty])
  have htext : w.text = Lines.joinLines '\n'.toUInt8 w.done := by simp [Written.text, hcur]
  refine ⟨hf.done_append_noLf (by simp [lf_ne_tab]), by simp, by simp [State.Inv], by simp,
    by simp, ?_, chain_append_line hf.chain (.inr hlast), ?_, hf.indented.append ?_, by simp⟩
  · simpa using allTabs_replicate _
  · have htext' : (⟨w.done ++ [List.replicate s.depth.toNat '\t'.toUInt8], []⟩ : Written).text =
        w.text ++ List.replicate s.depth.toNat '\t'.toUInt8 ++ ['\n'.toUInt8] := by
      simp [Written.text, Lines.joinLines_append, hcur]
    obtain ⟨-, hmode', hdepth, -⟩ := switch_lf s
    rw [htext', braces_append_byte, braces_append_tabs, hf.scan, (byteOf_eq_lf_iff _).mpr rfl,
      scanBrace_switch, hmode', hdepth]
  · have hscan : braces (Lines.joinLines '\n'.toUInt8 w.done) = (s.depth, s.mode) := htext ▸ hf.scan
    simp [LineIndented, lineDepth, hscan]

/-- A byte other than a newline written on a started line extends it. -/
lemma Fits.extendLine {c : UInt8} (hf : Fits s w) (hls : s.lineStarted = true)
    (hlf : Byte.of c ≠ .lf) :
    Fits ⟨(switch s (Byte.of c)).nextDepth, true, false, (switch s (Byte.of c)).mode⟩
      ⟨w.done, w.cur ++ [c]⟩ := by
  have hcur := hf.cur_ne_nil hls
  obtain ⟨b, hb, htab⟩ := exists_not_tab (hf.cur_not_tabs hcur)
  obtain ⟨htake, hdrop⟩ :=
    Lines.takeWhile_dropWhile_append (p := (· == '\t'.toUInt8)) ⟨b, hb, htab⟩ [c]
  refine ⟨hf.done_noLf, ?_, by simp [State.Inv], by simp, ?_, by simp, hf.chain, ?_, hf.indented,
    fun _ => ?_⟩
  · simpa [hf.cur_noLf] using fun h => hlf ((byteOf_eq_lf_iff c).mpr h.symm)
  · intro _ htabs
    exact absurd (htabs b (List.mem_append_left _ hb)) (by simpa using htab)
  · have htext : (⟨w.done, w.cur ++ [c]⟩ : Written).text = w.text ++ [c] := by
      simp [Written.text]
    rw [htext, braces_append_byte, hf.scan, scanBrace_switch]
  · -- the leading tabs and the first other byte of the line are those it had
    have hdrop_ne : w.cur.dropWhile (· == '\t'.toUInt8) ≠ [] := by
      intro h
      have hall := List.dropWhile_eq_nil_iff.mp h b hb
      simp_all
    have hhead : ((w.cur ++ [c]).dropWhile (· == '\t'.toUInt8)).head? =
        (w.cur.dropWhile (· == '\t'.toUInt8)).head? := by
      rw [hdrop, List.head?_append_of_ne_nil _ hdrop_ne]
    have hind := hf.cur_indented hcur
    unfold LineIndented lineDepth at hind ⊢
    rw [htake, hhead]
    exact hind

/-- A byte other than a newline written at the start of a line starts it after the
indentation of the depth, one less for a `}`. -/
lemma Fits.startLine {c : UInt8} (hf : Fits s w) (hls : s.lineStarted = false)
    (hlf : Byte.of c ≠ .lf) (hn : (switch s (Byte.of c)).needOutput = true) :
    Fits ⟨(switch s (Byte.of c)).nextDepth, true, true, (switch s (Byte.of c)).mode⟩
      ⟨w.done, List.replicate (switch s (Byte.of c)).depth.toNat '\t'.toUInt8 ++ [c]⟩ := by
  have hcur : w.cur = [] := hf.started.mp hls
  have hmode := hf.mode_code hls
  obtain ⟨-, hcr, hblank⟩ := switch_written hf.inv hlf hn
  have hctab : c ≠ '\t'.toUInt8 := fun h => hblank hls (by rw [h]; exact byteOf_tab)
  have hclf : c ≠ '\n'.toUInt8 := fun h => hlf ((byteOf_eq_lf_iff c).mpr h)
  have htext : (⟨w.done, List.replicate (switch s (Byte.of c)).depth.toNat '\t'.toUInt8 ++ [c]⟩ :
      Written).text = w.text ++ List.replicate (switch s (Byte.of c)).depth.toNat '\t'.toUInt8 ++ [c] := by
    simp [Written.text, hcur]
  refine ⟨hf.done_noLf, ?_, by simp [State.Inv], by simp, ?_, by simp, hf.chain, ?_, hf.indented,
    fun _ => ?_⟩
  · simp [hclf.symm, lf_ne_tab]
  · intro _ htabs
    exact hctab (htabs c (by simp))
  · rw [htext, braces_append_byte, braces_append_tabs, hf.scan, scanBrace_switch]
  · -- the line is the indentation and `c`, which is no tab
    have hscan : braces (Lines.joinLines '\n'.toUInt8 w.done) = (s.depth, s.mode) := by
      simpa [Written.text, hcur] using hf.scan
    have hclose : (c = '}'.toUInt8) ↔ Byte.of c = .closeBrace := (byteOf_eq_closeBrace_iff c).symm
    simp only [LineIndented, lineDepth, hscan, switch_depth hmode]
    rw [List.takeWhile_append_of_pos (by simp), List.dropWhile_append_of_pos (by simp)]
    by_cases hb : Byte.of c = .closeBrace <;> simp [hb, hctab, hclose]

end Cases

/-- The state after a byte that is written, and what it writes: the indentation of the line
before its first byte. -/
lemma step_of_needOutput {s : State} {c : UInt8} (hn : (switch s (Byte.of c)).needOutput = true) :
    step s c =
      (⟨(switch s (Byte.of c)).nextDepth, (switch s (Byte.of c)).nextLineStarted, !s.lineStarted,
          (switch s (Byte.of c)).mode⟩,
        (if s.lineStarted then [] else
          List.replicate (switch s (Byte.of c)).depth.toNat '\t'.toUInt8) ++ [c]) := by
  cases hls : s.lineStarted <;> simp [step, hn, hls, writeIndentOnEmptyLines]

/-- Every byte keeps `Fits`, with what it writes added to the lines. -/
lemma Fits.step {s : State} {w : Written} (hf : Fits s w) (c : UInt8) :
    ∃ w', w'.text = w.text ++ (step s c).2 ∧ Fits (step s c).1 w' := by
  by_cases hn : (switch s (Byte.of c)).needOutput = true
  · rw [step_of_needOutput hn]
    by_cases hlf : Byte.of c = .lf
    · have hc := (byteOf_eq_lf_iff c).mp hlf
      obtain ⟨hnext, hmode, hdepth, hdepth'⟩ := switch_lf s
      rw [← hlf] at hnext hmode hdepth hdepth'
      rw [hnext, hmode, hdepth, hdepth']
      cases hls : s.lineStarted
      · -- a newline at the start of a line: a blank line
        have hempty : s.emptyLineWritten = false := by
          simpa [switch, hlf, hls, hf.mode_code hls] using hn
        refine ⟨⟨w.done ++ [List.replicate s.depth.toNat '\t'.toUInt8], []⟩, ?_,
          hf.blankLine hls hempty⟩
        simp [Written.text, Lines.joinLines_append, hf.started.mp hls, hc]
      · refine ⟨⟨w.done ++ [w.cur], []⟩, ?_, hf.closeLine hls⟩
        simp [Written.text, Lines.joinLines_append, hc]
    · obtain ⟨hnext, -, -⟩ := switch_written hf.inv hlf hn
      rw [hnext]
      cases hls : s.lineStarted
      · refine ⟨⟨w.done, List.replicate (switch s (Byte.of c)).depth.toNat '\t'.toUInt8 ++ [c]⟩,
          ?_, hf.startLine hls hlf hn⟩
        simp [Written.text, hf.started.mp hls]
      · refine ⟨⟨w.done, w.cur ++ [c]⟩, ?_, hf.extendLine hls hlf⟩
        simp [Written.text]
  · rw [step_of_needOutput_false hf.inv (by simpa using hn)]
    exact ⟨w, by simp, hf⟩

/-- The lines a `Fits` describes are those of its text, with no two blank lines in a row. -/
lemma Fits.lines_chain {s : State} {w : Written} (hf : Fits s w) :
    (Lines.lines '\n'.toUInt8 w.text).IsChain NotBothBlank := by
  rw [Written.text, Lines.lines_joinLines_append w.done w.cur hf.done_noLf hf.cur_noLf]
  by_cases hcur : w.cur = []
  · simpa [hcur] using hf.chain
  · rw [if_neg hcur]
    exact chain_append_line hf.chain (.inl (hf.cur_not_tabs hcur))

/-- The lines a `Fits` describes are indented. -/
lemma Fits.lines_indented {s : State} {w : Written} (hf : Fits s w) :
    Indented [] (Lines.lines '\n'.toUInt8 w.text) := by
  rw [Written.text, Lines.lines_joinLines_append w.done w.cur hf.done_noLf hf.cur_noLf]
  by_cases hcur : w.cur = []
  · simpa [hcur] using hf.indented
  · rw [if_neg hcur]
    exact hf.indented.append (by simpa using hf.cur_indented hcur)

/-- The `switch` drops only blanks, carriage returns and newlines. -/
lemma switch_dropped {s : State} {b : Byte} (h : (switch s b).needOutput = false) :
    b = .blank ∨ b = .cr ∨ b = .lf := by
  cases hmode : s.mode <;> cases b <;> simp_all [switch]

lemma layoutByte_tab : layoutByte '\t'.toUInt8 = true := by decide

/-- A byte writes itself, up to layout bytes. -/
lemma step_filter (s : State) (c : UInt8) :
    (step s c).2.filter (!layoutByte ·) = [c].filter (!layoutByte ·) := by
  by_cases hn : (switch s (Byte.of c)).needOutput = true
  · rw [step_of_needOutput hn]
    cases s.lineStarted <;> simp [layoutByte_tab]
  · have hlayout : layoutByte c = true := (layoutByte_iff c).mpr (switch_dropped (by simpa using hn))
    simp [step, hn, hlayout]

/-- No byte writes a carriage return. -/
lemma cr_not_mem_step {s : State} (hs : s.Inv) (c : UInt8) : '\r'.toUInt8 ∉ (step s c).2 := by
  by_cases hn : (switch s (Byte.of c)).needOutput = true
  · have hcr : c ≠ '\r'.toUInt8 := by
      rintro rfl
      have hlf : Byte.of '\r'.toUInt8 ≠ .lf := by decide
      exact (switch_written hs hlf hn).2.1 (by decide)
    have htab : '\r'.toUInt8 ≠ '\t'.toUInt8 := by decide
    rw [step_of_needOutput hn]
    cases s.lineStarted <;> simp [htab, hcr.symm]
  · simp [step, hn]

/-! ### Whole runs -/

/-- What a whole run writes fits the state it ends in. -/
lemma fits_cleanConf (input : List UInt8) :
    ∃ w : Written, w.text = cleanConf input ∧ Fits (Transducer.run step State.init input).1 w := by
  have hrun : ∃ w : Written, w.text = [] ++ cleanConf input ∧
      Fits (Transducer.run step State.init input).1 w :=
    Transducer.run_invariant_output (fun s out => ∃ w : Written, w.text = out ∧ Fits s w)
      (by
        rintro s out c ⟨w, rfl, hf⟩
        exact hf.step c)
      ⟨⟨[], []⟩, rfl, fits_init⟩ input
  simpa using hrun

lemma cr_not_mem_cleanConf (input : List UInt8) : '\r'.toUInt8 ∉ cleanConf input := by
  have hrun : (Transducer.run step State.init input).1.Inv ∧ '\r'.toUInt8 ∉ [] ++ cleanConf input :=
    Transducer.run_invariant_output (fun (s : State) out => s.Inv ∧ '\r'.toUInt8 ∉ out)
      (by
        rintro s out c ⟨hs, hout⟩
        refine ⟨step_inv s c hs, ?_⟩
        simpa [hout] using cr_not_mem_step hs c)
      ⟨State.init_inv, List.not_mem_nil⟩ input
  simpa using hrun.2

/-- `cleanConf` changes only the layout: without spaces, tabs, carriage returns and newlines
its output is its input; it writes no carriage return; no two lines in a row are blank; and
every line is indented by the depth of `{ }` before it, one less when it starts with `}`. -/
theorem cleanConf_layout (input : List UInt8) :
    (cleanConf input).filter (!layoutByte ·) = input.filter (!layoutByte ·) ∧
    '\r'.toUInt8 ∉ cleanConf input ∧
    (Lines.lines '\n'.toUInt8 (cleanConf input)).IsChain NotBothBlank ∧
    Indented [] (Lines.lines '\n'.toUInt8 (cleanConf input)) := by
  obtain ⟨w, htext, hf⟩ := fits_cleanConf input
  refine ⟨Transducer.run_filter _ step_filter _ _, cr_not_mem_cleanConf input, ?_, ?_⟩
  · rw [← htext]
    exact hf.lines_chain
  · rw [← htext]
    exact hf.lines_indented

example : cleanConf ("a \x7b\r\nb;\n\n\n\x7d\n".toList.map Char.toUInt8) =
    "a \x7b\n\tb;\n\t\n\x7d\n".toList.map Char.toUInt8 := by decide

/-- `cleanConf` is idempotent: a second pass over its output writes the output again. -/
theorem cleanConf_idempotent (input : List UInt8) :
    cleanConf (cleanConf input) = cleanConf input := by
  have hrun := Transducer.run_run State.Inv (fun s c hs => step_inv s c hs)
    (fun s c hs => step_idem hs c) State.init_inv input
  exact congrArg Prod.snd hrun

end CleanConf

end Template

end IngressNginx
