import IngressNginx.Lib.Go
import IngressNginx.Lib.LuaSyntax

/-!
# Go values as Lua expressions (`convertGoSliceIntoLuaTable`)

The template writes Go values into `nginx.conf` as Lua expressions, for the Lua code to read:
`convertGoSliceIntoLuaTable` writes a string between double quotes, an integer or a Boolean
as Go prints it, and a slice as a table constructor of its elements; `emptyStringAsNil`
writes the empty string as `nil`.

A string is written as it is, without escaping. So its backslashes start Lua escapes: a string
that holds a backslash followed by `n` is read back by Lua with a newline in their place
(`convertGoSliceIntoLuaTable_backslash_n`).
-/

namespace IngressNginx

namespace Template

/-- A value given to `convertGoSliceIntoLuaTable`, by its `reflect.Kind`: a string, an
integer, a Boolean, a slice, or a value of another kind, named. -/
inductive GoValue where
  | str (s : String)
  | int (n : Int)
  | bool (b : Bool)
  | slice (items : List GoValue)
  | other (kind : String)

mutual

/-- `convertGoSliceIntoLuaTable`. -/
def convertGoSliceIntoLuaTable : GoValue → Bool → Except String String
  | .str s, emptyStringAsNil =>
    if emptyStringAsNil && Go.len s = 0 then .ok "nil" else .ok ("\"" ++ s ++ "\"")
  | .int n, _ => .ok (toString n)
  | .bool b, _ => .ok (toString b)
  | .slice items, emptyStringAsNil => do
    let luaEls ← convertGoSliceElements items emptyStringAsNil
    pure ("\x7b " ++ luaEls ++ "\x7d")
  | .other kind, _ => .error ("could not process type: " ++ kind)

/-- The loop of `convertGoSliceIntoLuaTable` over a slice: each element followed by `, `. -/
def convertGoSliceElements : List GoValue → Bool → Except String String
  | [], _ => .ok ""
  | v :: vs, emptyStringAsNil => do
    let luaEl ← convertGoSliceIntoLuaTable v emptyStringAsNil
    let rest ← convertGoSliceElements vs emptyStringAsNil
    pure (luaEl ++ ", " ++ rest)

end

mutual

/-- The Lua value a Go value stands for: a string as its bytes (the empty one as `nil` under
`emptyStringAsNil`), a slice as the table of its elements; none for another kind. -/
def GoValue.toLua (emptyStringAsNil : Bool) : GoValue → Option Lua.Value
  | .str s => some (if emptyStringAsNil && s = "" then .nil else .str (Go.bytes s))
  | .int n => some (.number n)
  | .bool b => some (.bool b)
  | .slice items => (GoValue.toLuaList emptyStringAsNil items).map .table
  | .other _ => none

/-- `GoValue.toLua` on the elements of a slice. -/
def GoValue.toLuaList (emptyStringAsNil : Bool) : List GoValue → Option (List Lua.Value)
  | [] => some []
  | v :: vs => do
    let lv ← GoValue.toLua emptyStringAsNil v
    let lvs ← GoValue.toLuaList emptyStringAsNil vs
    pure (lv :: lvs)

end

lemma bytes_append (s t : String) : Go.bytes (s ++ t) = Go.bytes s ++ Go.bytes t := by
  simp [Go.bytes, List.flatMap_append]

/-- A string that holds a backslash followed by `n`, between bytes that Lua reads as
themselves, is written so that Lua reads a newline in place of the two. -/
theorem convertGoSliceIntoLuaTable_backslash_n (pre post : String) (emptyStringAsNil : Bool)
    (hpre : ∀ b ∈ Go.bytes pre, Lua.plainByte b) (hpost : ∀ b ∈ Go.bytes post, Lua.plainByte b) :
    ∃ text, convertGoSliceIntoLuaTable (.str (pre ++ "\\n" ++ post)) emptyStringAsNil = .ok text ∧
      Lua.eval (Go.bytes text) = some (.str (Go.bytes pre ++ [10] ++ Go.bytes post)) ∧
      Lua.eval (Go.bytes text) ≠ (GoValue.str (pre ++ "\\n" ++ post)).toLua emptyStringAsNil := by
  have hbackslash : Go.bytes "\\n" = [92, 110] := by decide
  have hquote : Go.bytes "\"" = [34] := by decide
  have hne : pre ++ "\\n" ++ post ≠ "" := by
    intro h
    have hlen := congrArg String.length h
    have htwo : "\\n".length = 2 := by decide
    simp only [String.length_append, htwo, String.length_empty] at hlen
    omega
  have hlen : Go.len (pre ++ "\\n" ++ post) ≠ 0 := by
    rw [Go.len, Ne, String.utf8ByteSize_eq_zero_iff]
    exact hne
  -- the string is written between quotes, as it is
  refine ⟨"\"" ++ (pre ++ "\\n" ++ post) ++ "\"", by simp [convertGoSliceIntoLuaTable, hlen], ?_⟩
  have hread : Lua.readShortString 34 (Go.bytes pre ++ ([92, 110] ++ (Go.bytes post ++ [34]))) =
      some (Go.bytes pre ++ ([10] ++ Go.bytes post), []) := by
    apply Lua.readShortString_append_plain hpre
    rw [List.cons_append, List.cons_append, List.nil_append,
      Lua.readShortString_escape 110 10 _ (by decide),
      Lua.readShortString_append_plain hpost (Lua.readShortString_quote [])]
    simp [Lua.consByte]
  have heval : Lua.eval (Go.bytes ("\"" ++ (pre ++ "\\n" ++ post) ++ "\"")) =
      some (.str (Go.bytes pre ++ [10] ++ Go.bytes post)) := by
    simp only [bytes_append, hbackslash, hquote, List.append_assoc, List.singleton_append]
    simpa using Lua.eval_string hread
  refine ⟨heval, ?_⟩
  -- Lua's string is shorter by one byte than the bytes of the Go string
  rw [heval, GoValue.toLua, if_neg (by simp [hne]), bytes_append, bytes_append, hbackslash]
  intro h
  have hlen := congrArg List.length (Lua.Value.str.inj (Option.some.inj h))
  simp at hlen

theorem convertGoSliceIntoLuaTable_windows_path :
    ∃ text, convertGoSliceIntoLuaTable (.str "C:\\new") true = .ok text ∧
      Lua.eval (Go.bytes text) ≠ (GoValue.str "C:\\new").toLua true := by
  have hpath : "C:" ++ "\\n" ++ "ew" = "C:\\new" := by decide
  have hpre : Go.bytes "C:" = [67, 58] := by decide
  have hpost : Go.bytes "ew" = [101, 119] := by decide
  obtain ⟨text, htext, -, hne⟩ :=
    convertGoSliceIntoLuaTable_backslash_n "C:" "ew" true (by rw [hpre]; simp [Lua.plainByte])
      (by rw [hpost]; simp [Lua.plainByte])
  rw [hpath] at htext hne
  exact ⟨text, htext, hne⟩

end Template

end IngressNginx
