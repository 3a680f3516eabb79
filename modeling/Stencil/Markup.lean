import Stencil.Text.Basic

/-!
Text that is safe inside markup and inside quoted attributes.
-/
namespace Stencil.Markup

def escapeChar (c : Char) : Text :=
  if c = '&' then "&amp;"
  else if c = '<' then "&lt;"
  else if c = '>' then "&gt;"
  else if c = '"' then "&quot;"
  else if c = '\'' then "&#x27;"
  else [c]

def escape (t : Text) : Text :=
  t.flatMap escapeChar

-- The characters that open or close tags and quoted attributes.
def delimiters : List Char := ['<', '>', '"', '\'']

-- An escaped character holds no delimiter.
theorem count_escapeChar {d : Char} (hd : d ∈ delimiters) (c : Char) : (escapeChar c).count d = 0 := by
  simp only [delimiters, List.mem_cons, List.not_mem_nil, or_false] at hd
  unfold escapeChar
  rcases hd with rfl | rfl | rfl | rfl <;> (repeat' split) <;> (try decide) <;> simp [*]

theorem count_escape {d : Char} (hd : d ∈ delimiters) (t : Text) : (escape t).count d = 0 := by
  induction t with
  | nil => rfl
  | cons c t ih => simp_all [escape, count_escapeChar hd]

end Stencil.Markup
