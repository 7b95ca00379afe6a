import ElfFacts.Json.Parser

/-!
# Values from their tokens

The tokens of a value lead the parser from where a value is expected to where that value is
complete, whatever is open around it.
-/
namespace ElfFacts.Json

mutual

def tokens : Json → List Token
  | .null => [.null]
  | .bool b => [.bool b]
  | .number literal => [.number literal]
  | .text s => [.text s]
  | .list [] => [.openList, .closeList]
  | .list (j :: rest) => .openList :: (j.tokens ++ (itemTokens rest ++ [.closeList]))
  | .object [] => [.openObject, .closeObject]
  | .object ((name, j) :: rest) =>
    .openObject :: .text name :: .colon :: (j.tokens ++ (memberTokens rest ++ [.closeObject]))

def itemTokens : List Json → List Token
  | [] => []
  | j :: rest => .comma :: (j.tokens ++ itemTokens rest)

def memberTokens : List (JsonText × Json) → List Token
  | [] => []
  | (name, j) :: rest => .comma :: .text name :: .colon :: (j.tokens ++ memberTokens rest)

end

namespace Expecting

def run (e : Expecting) (tokens : List Token) : Option Expecting := tokens.foldlM step e

theorem run_cons {e f : Expecting} {t : Token} (h : e.step t = some f) (tokens : List Token) :
    e.run (t :: tokens) = f.run tokens := by
  rw [run, List.foldlM_cons, h]
  rfl

theorem run_append {e f : Expecting} {front : List Token} (h : e.run front = some f)
    (back : List Token) : e.run (front ++ back) = f.run back := by
  rw [run, List.foldlM_append]
  exact congrArg (· >>= fun e => back.foldlM step e) h

theorem run_firstItem (j : Json) (above : List Frame) (back : List Token) :
    (firstItem above).run (j.tokens ++ back) = (value (.item [] :: above)).run (j.tokens ++ back) := by
  have hfirst : ∃ t r, j.tokens = t :: r ∧ t ≠ .closeList := by
    cases j with
    | list items => cases items <;> exact ⟨.openList, _, by rw [tokens], Token.noConfusion⟩
    | object members => cases members <;> exact ⟨.openObject, _, by rw [tokens], Token.noConfusion⟩
    | _ => exact ⟨_, [], by rw [tokens], Token.noConfusion⟩
  obtain ⟨t, r, ht, hne⟩ := hfirst
  have hstep : (firstItem above).step t = (value (.item [] :: above)).step t := by
    cases t with
    | closeList => exact absurd rfl hne
    | _ => rfl
  rw [ht, List.cons_append, run, run, List.foldlM_cons, List.foldlM_cons, hstep]

end Expecting

open Expecting

mutual

theorem run_tokens : ∀ (j : Json) (above : List Frame),
    (value above).run j.tokens = some (.after j above)
  | .null, _ | .bool _, _ | .number _, _ | .text _, _ => by rw [tokens]; rfl
  | .list [], _ | .object [], _ => by rw [tokens]; rfl
  | .list (j :: rest), above => by
    rw [tokens, run_cons (f := .firstItem above) rfl, run_firstItem,
      run_append (run_tokens j (.item [] :: above)), run_itemTokens]
    rfl
  | .object ((name, j) :: rest), above => by
    rw [tokens, run_cons (f := .firstName above) rfl, run_cons (f := .colon [] name above) rfl,
      run_cons (f := .value (.member [] name :: above)) rfl,
      run_append (run_tokens j (.member [] name :: above)), run_memberTokens]
    rfl

theorem run_itemTokens : ∀ (rest : List Json) (j : Json) (before : List Json) (above : List Frame),
    (after j (.item before :: above)).run (itemTokens rest ++ [.closeList]) =
      some (.after (.list ((j :: before).reverse ++ rest)) above)
  | [], j, before, above => by
    rw [itemTokens, List.append_nil]
    rfl
  | i :: rest, j, before, above => by
    rw [itemTokens, List.cons_append, List.append_assoc,
      run_cons (f := .value (.item (j :: before) :: above)) rfl,
      run_append (run_tokens i (.item (j :: before) :: above)), run_itemTokens rest,
      List.reverse_cons, List.append_assoc, List.singleton_append]

theorem run_memberTokens : ∀ (rest : List (JsonText × Json)) (name : JsonText) (j : Json)
    (before : List (JsonText × Json)) (above : List Frame),
    (after j (.member before name :: above)).run (memberTokens rest ++ [.closeObject]) =
      some (.after (.object (((name, j) :: before).reverse ++ rest)) above)
  | [], name, j, before, above => by
    rw [memberTokens, List.append_nil]
    rfl
  | (next, i) :: rest, name, j, before, above => by
    rw [memberTokens, List.cons_append, List.cons_append, List.cons_append, List.append_assoc,
      run_cons (f := .nextName ((name, j) :: before) above) rfl,
      run_cons (f := .colon ((name, j) :: before) next above) rfl,
      run_cons (f := .value (.member ((name, j) :: before) next :: above)) rfl,
      run_append (run_tokens i (.member ((name, j) :: before) next :: above)),
      run_memberTokens rest, List.reverse_cons, List.append_assoc, List.singleton_append]

end

theorem ofTokens?_tokens (j : Json) : ofTokens? j.tokens = some j := by
  have h := run_tokens j []
  rw [run] at h
  rw [ofTokens?, h]

end ElfFacts.Json
