import Inventory.Json.Reader

/-! Passing over a value that is not wanted. The grammar and the letters of escapes are checked; nesting,
the range of numbers, surrogates and UTF-8 are not. -/
namespace Inventory.Json.Reader

def skipText : Nat → Bytes → Except Flaw Bytes
  | 0, _ => .error .truncated
  | _ + 1, [] => .error .truncated
  | steps + 1, byte :: rest =>
      if byte = quote then .ok rest
      else if byte = backslash then
        match rest with
        | [] => .error .truncated
        | letter :: rest =>
            if (shortEscape? letter).isSome then skipText steps rest
            else if letter = 0x75 then
              match unit rest with
              | .error flaw => .error flaw
              | .ok (_, rest) => skipText steps rest
            else .error .malformed
      else if byte < 0x20 then .error .malformed
      else skipText steps rest

/-- A numeral behind its sign. One that breaks off is malformed here, not truncated. -/
def skipNumeral (input : Bytes) : Except Flaw Bytes :=
  match numeral false input with
  | .ok (_, rest) => .ok rest
  | .error _ => .error .malformed

mutual
def skip (steps : Nat) (input : Bytes) : Except Flaw Bytes :=
  match steps with
  | 0 => .error .truncated
  | steps + 1 =>
      match skipBlanks input with
      | [] => .error .truncated
      | first :: rest =>
          if first = openBracket then skipItems steps true rest
          else if first = openBrace then skipMembers steps true rest
          else if first = minus then skipNumeral rest
          else if isDigit first then skipNumeral (first :: rest)
          else if first = quote then skipText steps rest
          else (scalar steps first rest).map Prod.snd

def skipItems (steps : Nat) (isFirst : Bool) (input : Bytes) : Except Flaw Bytes :=
  match steps with
  | 0 => .error .truncated
  | steps + 1 =>
      match nextItem closeBracket isFirst input with
      | .error flaw => .error flaw
      | .ok (none, rest) => .ok rest
      | .ok (some start, _) =>
          match skip steps start with
          | .error flaw => .error flaw
          | .ok rest => skipItems steps false rest

def skipMembers (steps : Nat) (isFirst : Bool) (input : Bytes) : Except Flaw Bytes :=
  match steps with
  | 0 => .error .truncated
  | steps + 1 =>
      match nextItem closeBrace isFirst input with
      | .error flaw => .error flaw
      | .ok (none, rest) => .ok rest
      | .ok (some [], _) => .error .truncated
      | .ok (some (byte :: rest), _) =>
          if byte = quote then
            match skipText steps rest with
            | .error flaw => .error flaw
            | .ok rest =>
                match afterColon rest with
                | .error flaw => .error flaw
                | .ok rest =>
                    match skip steps rest with
                    | .error flaw => .error flaw
                    | .ok rest => skipMembers steps false rest
          else .error .malformed
end

end Inventory.Json.Reader
