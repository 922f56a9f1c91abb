/-! White space around names and settings: the twenty-five characters with the Unicode property
White_Space. Trimming removes them from both ends of a text and nothing else. -/
namespace Inventory.Text

def isBlank (character : Char) : Bool :=
  let code := character.toNat
  (0x09 ≤ code && code ≤ 0x0D) || code == 0x20 || code == 0x85 || code == 0xA0 ||
    code == 0x1680 || (0x2000 ≤ code && code ≤ 0x200A) || code == 0x2028 || code == 0x2029 ||
    code == 0x202F || code == 0x205F || code == 0x3000

def trimChars (text : List Char) : List Char :=
  ((text.dropWhile isBlank).reverse.dropWhile isBlank).reverse

def trim (text : String) : String :=
  String.ofList (trimChars text.toList)

def Trimmed (text : List Char) : Prop :=
  text.head?.all (!isBlank ·) ∧ text.getLast?.all (!isBlank ·)

instance (text : List Char) : Decidable (Trimmed text) :=
  inferInstanceAs (Decidable (_ ∧ _))

theorem head?_dropWhile_isBlank (text : List Char) :
    (text.dropWhile isBlank).head?.all (!isBlank ·) := by
  induction text with
  | nil => rfl
  | cons character rest ih =>
      by_cases blank : isBlank character = true
      · simpa [List.dropWhile, blank] using ih
      · simp [List.dropWhile, blank]

theorem trimmed_trimChars (text : List Char) : Trimmed (trimChars text) := by
  constructor
  · have start := head?_dropWhile_isBlank text
    unfold trimChars
    generalize text.dropWhile isBlank = rest at start
    have shortened := List.reverse_prefix.2 (List.dropWhile_suffix (p := isBlank) (l := rest.reverse))
    rw [List.reverse_reverse] at shortened
    obtain ⟨dropped, whole⟩ := shortened
    rw [← whole] at start
    cases kept : (rest.reverse.dropWhile isBlank).reverse with
    | nil => rfl
    | cons character more =>
        rw [kept] at start
        simpa using start
  · simp only [trimChars, List.getLast?_reverse]
    exact head?_dropWhile_isBlank _

theorem trimmed_trim (text : String) : Trimmed (trim text).toList := by
  simpa [trim] using trimmed_trimChars text.toList

end Inventory.Text
