/-! Texts put together with a separator between neighbours. -/
namespace StorageAccess

/-- The texts in order with `separator` between each two. -/
def joinWith (separator : String) : List String → String
  | [] => ""
  | [s] => s
  | s :: rest => s ++ separator ++ joinWith separator rest

theorem joinWith_cons {separator s : String} {rest : List String} (h : rest ≠ []) :
    joinWith separator (s :: rest) = s ++ separator ++ joinWith separator rest := by
  cases rest with
  | nil => exact absurd rfl h
  | cons _ _ => rfl

theorem joinWith_append {separator : String} {texts others : List String} (ht : texts ≠ [])
    (ho : others ≠ []) : joinWith separator (texts ++ others) =
      joinWith separator texts ++ separator ++ joinWith separator others := by
  induction texts with
  | nil => exact absurd rfl ht
  | cons s rest ih =>
    rw [List.cons_append, joinWith_cons (List.append_ne_nil_of_right_ne_nil rest ho)]
    by_cases hr : rest = []
    · rw [hr]
      rfl
    · rw [ih hr, joinWith_cons hr]
      simp only [String.append_assoc]

end StorageAccess
