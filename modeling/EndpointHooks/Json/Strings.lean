import EndpointHooks.Json.Fault
import EndpointHooks.Text.Digits

/-! JSON strings. `stringRest` reads a string after its opening quote, and `skipStringRest` passes
over one that is not wanted, for which escaped surrogates need not pair up. -/

namespace EndpointHooks.Json

open Text

/-- Four hexadecimal digits. Four bytes are taken before they are looked at, so a text that has
less than four left ends in the string, and a fault in the digits lies after the four. -/
def hexQuad (s : List Char) : Except Fault (Nat × List Char) :=
  if byteCount s < 4 then .error (.before [] .endInString)
  else
    match hexNumber? (s.take 4) with
    | some n => .ok (n, s.drop 4)
    | none => .error ⟨.invalidEscape, byteCount s - 4⟩

def shortEscape? (c : Char) : Option Char :=
  if c = '"' then some '"'
  else if c = '\\' then some '\\'
  else if c = '/' then some '/'
  else if c = 'b' then some '\x08'
  else if c = 'f' then some '\x0c'
  else if c = 'n' then some '\n'
  else if c = 'r' then some '\r'
  else if c = 't' then some '\t'
  else none

/-- One fixed character of the escape that has to follow a leading surrogate. -/
def surrogateMark (mark : Char) (s : List Char) : Except Fault (List Char) :=
  match s with
  | [] => .error (.before [] .endInString)
  | c :: r => if c = mark then .ok r else .error (.inside s .unfinishedSurrogatePair)

/-- The second half of a surrogate pair, after the code of the first. -/
def trailingSurrogate (leading : Nat) (s : List Char) : Except Fault (Char × List Char) := do
  let s ← surrogateMark '\\' s
  let s ← surrogateMark 'u' s
  let (trailing, rest) ← hexQuad s
  if 0xDC00 ≤ trailing ∧ trailing ≤ 0xDFFF then
    .ok (Char.ofNat (0x10000 + (leading - 0xD800) * 0x400 + (trailing - 0xDC00)), rest)
  else .error (.before rest .loneSurrogate)

/-- The character of an escape, after its backslash. -/
def escapeRest : List Char → Except Fault (Char × List Char)
  | [] => .error (.before [] .endInString)
  | c :: s =>
    match shortEscape? c with
    | some d => .ok (d, s)
    | none =>
      if c = 'u' then do
        let (code, rest) ← hexQuad s
        if 0xDC00 ≤ code ∧ code ≤ 0xDFFF then .error (.before rest .loneSurrogate)
        else if 0xD800 ≤ code ∧ code ≤ 0xDBFF then trailingSurrogate code rest
        else .ok (Char.ofNat code, rest)
      else .error (.inside (c :: s) .invalidEscape)

def skipEscapeRest : List Char → Except Fault (List Char)
  | [] => .error (.before [] .endInString)
  | c :: s =>
    match shortEscape? c with
    | some _ => .ok s
    | none =>
      if c = 'u' then (hexQuad s).map Prod.snd else .error (.inside (c :: s) .invalidEscape)

theorem hexQuad_length {s rest : List Char} {n : Nat} (h : hexQuad s = .ok (n, rest)) :
    rest.length ≤ s.length := by
  unfold hexQuad at h
  split at h
  · simp at h
  · split at h
    · simp only [Except.ok.injEq, Prod.mk.injEq] at h
      simp [← h.2]
    · simp at h

theorem surrogateMark_length {mark : Char} {s rest : List Char}
    (h : surrogateMark mark s = .ok rest) : rest.length ≤ s.length := by
  unfold surrogateMark at h
  split at h
  · simp at h
  · split at h
    · simp only [Except.ok.injEq] at h
      simp [h]
    · simp at h

theorem trailingSurrogate_length {leading : Nat} {s rest : List Char} {c : Char}
    (h : trailingSurrogate leading s = .ok (c, rest)) : rest.length ≤ s.length := by
  unfold trailingSurrogate at h
  simp only [bind, Except.bind] at h
  split at h
  · simp at h
  · rename_i s₁ h₁
    split at h
    · simp at h
    · rename_i s₂ h₂
      split at h
      · simp at h
      · rename_i p h₃
        have := surrogateMark_length h₁
        have := surrogateMark_length h₂
        have := hexQuad_length (show hexQuad s₂ = .ok (p.1, p.2) from h₃)
        split at h
        · simp only [Except.ok.injEq, Prod.mk.injEq] at h
          rw [← h.2]
          omega
        · simp at h

/-- An escape takes at least one character after its backslash. -/
theorem escapeRest_length {s rest : List Char} {c : Char} (h : escapeRest s = .ok (c, rest)) :
    rest.length < s.length := by
  unfold escapeRest at h
  split at h
  · simp at h
  · split at h
    · simp only [Except.ok.injEq, Prod.mk.injEq] at h
      simp [h.2]
    · split at h
      · simp only [bind, Except.bind] at h
        split at h
        · simp at h
        · rename_i p h₁
          have := hexQuad_length (show hexQuad _ = .ok (p.1, p.2) from h₁)
          split at h
          · simp at h
          · split at h
            · have := trailingSurrogate_length h
              simp only [List.length_cons]
              omega
            · simp only [Except.ok.injEq, Prod.mk.injEq] at h
              simp only [List.length_cons, ← h.2]
              omega
      · simp at h

theorem skipEscapeRest_length {s rest : List Char} (h : skipEscapeRest s = .ok rest) :
    rest.length < s.length := by
  unfold skipEscapeRest at h
  split at h
  · simp at h
  · split at h
    · simp only [Except.ok.injEq] at h
      simp [h]
    · split at h
      · rename_i s _ _ _
        cases hq : hexQuad s with
        | error f => simp [hq, Except.map] at h
        | ok p =>
          have := hexQuad_length (show hexQuad s = .ok (p.1, p.2) from hq)
          simp only [hq, Except.map, Except.ok.injEq] at h
          simp only [List.length_cons, ← h]
          omega
      · simp at h

def stringCharsRest (s : List Char) : Except Fault (List Char × List Char) :=
  match s with
  | [] => .error (.before [] .endInString)
  | c :: r =>
    if c = '"' then .ok ([], r)
    else if c = '\\' then
      match _h : escapeRest r with
      | .error fault => .error fault
      | .ok (d, rest) => (stringCharsRest rest).map fun p => (d :: p.1, p.2)
    else if c.toNat < 0x20 then .error (.inside s .controlCharacter)
    else (stringCharsRest r).map fun p => (c :: p.1, p.2)
termination_by s.length
decreasing_by
  · have := escapeRest_length _h
    simp only [List.length_cons]
    omega
  · simp

def stringRest (s : List Char) : Except Fault (String × List Char) :=
  (stringCharsRest s).map fun p => (String.ofList p.1, p.2)

def skipStringRest (s : List Char) : Except Fault (List Char) :=
  match s with
  | [] => .error (.before [] .endInString)
  | c :: r =>
    if c = '"' then .ok r
    else if c = '\\' then
      match _h : skipEscapeRest r with
      | .error fault => .error fault
      | .ok rest => skipStringRest rest
    else if c.toNat < 0x20 then .error (.before s .controlCharacter)
    else skipStringRest r
termination_by s.length
decreasing_by
  · have := skipEscapeRest_length _h
    simp only [List.length_cons]
    omega
  · simp

end EndpointHooks.Json
