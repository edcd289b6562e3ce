import ChangeTransport.Hosting.Remote
import ChangeTransport.Proofs.Url.Authority

/-!
# Remotes as they are written

A remote with `://` in it is read as an address.  Every other remote with a colon stands for an
address of the scheme `ssh`, whose authority is what stands in front of the first colon, unless this
is empty or holds a slash or nothing stands behind the colon.
-/

namespace ChangeTransport

/-- A host belongs to the provider exactly if it is its domain, in letters of either case. -/
theorem HostingProvider.ofHost?_eq (host : String) :
    ofHost? host = if host.toLower = "github.com" then some .gitHub else none := by
  have small : "github.com".toLower = "github.com" := Text.toLower_eq_iff.mpr (by decide)
  have known : Text.sameIgnoringCase host "github.com" = true ↔ host.toLower = "github.com" := by
    rw [Text.sameIgnoringCase_iff, small]
  simp only [ofHost?, all, domain, List.find?_cons, List.find?_nil, ← known]
  cases Text.sameIgnoringCase host "github.com" <;> rfl

namespace HostedRepository

/-! ## The mark of a scheme -/

theorem hasSchemeMark_iff {characters : List Char} :
    hasSchemeMark characters = true ↔ "://".toList <:+: characters := by
  fun_induction hasSchemeMark characters with
  | case1 rest => exact iff_of_true rfl ⟨[], rest, rfl⟩
  | case2 first rest other induction =>
      rw [induction, List.infix_cons_iff]
      refine (or_iff_right ?_).symm
      rintro ⟨behind, split⟩
      cases split
      exact other behind rfl rfl
  | case3 => simp

/-- A mark is found behind a front without colons if it is found behind the colon, or at it. -/
theorem hasSchemeMark_append {front : List Char} (noColon : ':' ∉ front) (rest : List Char) :
    hasSchemeMark (front ++ ':' :: rest) = true ↔
      "//".toList <+: rest ∨ hasSchemeMark rest = true := by
  induction front with
  | nil =>
      rw [List.nil_append, hasSchemeMark_iff, List.infix_cons_iff, hasSchemeMark_iff]
      exact or_congr_left (List.cons_prefix_cons.trans (and_iff_right rfl))
  | cons first others induction =>
      rw [List.mem_cons, not_or] at noColon
      rw [List.cons_append, hasSchemeMark_iff, List.infix_cons_iff, ← hasSchemeMark_iff,
        induction noColon.2]
      refine or_iff_right ?_
      intro begins
      exact noColon.1 (List.cons_prefix_cons.mp begins).1

/-! ## The address of a remote -/

/-- A remote with a scheme is read as it is written. -/
theorem parseRemote_scheme (scheme rest : List Char) :
    parseRemote (scheme ++ "://".toList ++ rest) =
      Url.parse (String.ofList (scheme ++ ':' :: '/' :: '/' :: rest)) := by
  have marked : hasSchemeMark (scheme ++ "://".toList ++ rest) = true :=
    hasSchemeMark_iff.mpr (List.infix_append scheme _ rest)
  rw [parseRemote, addressOfShort?, if_pos marked, Option.getD_none, List.append_assoc]
  rfl

theorem parseRemote_of_mark {remote : List Char} (marked : hasSchemeMark remote = true) :
    parseRemote remote = Url.parse (String.ofList remote) := by
  rw [parseRemote, addressOfShort?, if_pos marked, Option.getD_none]

section Short

variable {front rest : List Char}
  (nonempty : front ≠ []) (noColon : ':' ∉ front) (noSlash : '/' ∉ front)
include nonempty noColon noSlash

/-- What stands in front of the first colon is the authority of an address. -/
theorem addressOfShort?_append (filled : rest ≠ [])
    (unmarked : ¬ hasSchemeMark (front ++ ':' :: rest) = true) :
    addressOfShort? (front ++ ':' :: rest) =
      some ("ssh".toList ++ ':' :: '/' :: '/' ::
        (front ++ '/' :: rest.dropWhile (fun character => character == '/'))) := by
  have authority : (front.isEmpty || front.contains '/' || rest.isEmpty) = false := by
    simp [nonempty, noSlash, filled]
  rw [addressOfShort?, if_neg unmarked]
  simp only [Text.span_bne_append noColon, authority, Bool.false_eq_true, if_false]
  rfl

theorem parseRemote_append (filled : rest ≠ [])
    (unmarked : ¬ hasSchemeMark (front ++ ':' :: rest) = true) :
    parseRemote (front ++ ':' :: rest) =
      Url.parse (String.ofList ("ssh".toList ++ ':' :: '/' :: '/' ::
        (front ++ '/' :: rest.dropWhile (fun character => character == '/')))) := by
  rw [parseRemote, addressOfShort?_append nonempty noColon noSlash filled unmarked,
    Option.getD_some]

end Short

/-- Where nothing stands behind the first colon, a remote is read as an address. -/
theorem parseRemote_concat {front : List Char} (noColon : ':' ∉ front) :
    parseRemote (front ++ [':']) = Url.parse (String.ofList (front ++ [':'])) := by
  have unmarked : ¬ hasSchemeMark (front ++ [':']) = true := by
    rw [hasSchemeMark_append noColon]
    rintro (begins | marked)
    · cases List.prefix_nil.mp begins
    · cases marked
  have none : addressOfShort? (front ++ [':']) = none := by
    rw [addressOfShort?, if_neg unmarked]
    simp only [Text.span_bne_append noColon, List.isEmpty_nil, Bool.or_true, if_true]
  rw [parseRemote, none, Option.getD_none]

end HostedRepository

end ChangeTransport
