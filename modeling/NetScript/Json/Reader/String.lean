import NetScript.Json.Reader.Basic

/-!
This module contains the reader of strings, behind the quote that opens them. Characters beyond the
basic plane are escaped as two surrogates, and no surrogate may stand alone.
-/

namespace NetScript.Json.Reader

def simpleEscapes : List (Char × Char) :=
  [('"', '"'), ('\\', '\\'), ('/', '/'), ('b', '\x08'), ('f', '\x0c'), ('n', '\n'), ('r', '\r'),
    ('t', '\t')]

/--
Takes four hexadecimal digits. If they are malformed the next four bytes are taken anyway.
-/
def hexEscape (cs : List Char) : Except Failure (Nat × List Char) :=
  match digits? cs with
  | some result => .ok result
  | none =>
    if byteCount cs < 4 then
      .error ⟨.endOfString, 0⟩
    else
      .error ⟨.invalidEscape, byteCount cs - 4⟩
where
  digits? : List Char → Option (Nat × List Char)
    | a :: b :: c :: d :: rest => do
      let a ← Text.hexValue? a
      let b ← Text.hexValue? b
      let c ← Text.hexValue? c
      let d ← Text.hexValue? d
      return (((a * 16 + b) * 16 + c) * 16 + d, rest)
    | _ => none

theorem hexEscape.length_of_digits? {cs rest : List Char} {n : Nat}
    (h : digits? cs = some (n, rest)) : rest.length < cs.length := by
  unfold digits? at h
  split at h
  · simp only [bind, Option.bind_eq_some_iff, pure, Option.some.injEq, Prod.mk.injEq] at h
    obtain ⟨_, _, _, _, _, _, _, _, _, rfl⟩ := h
    simp only [List.length_cons]
    omega
  · simp at h

theorem length_of_hexEscape {cs rest : List Char} {n : Nat} (h : hexEscape cs = .ok (n, rest)) :
    rest.length < cs.length := by
  unfold hexEscape at h
  split at h
  · next hdigits =>
    rw [Except.ok.injEq] at h
    subst h
    exact hexEscape.length_of_digits? hdigits
  · split at h <;> simp at h

def isLowSurrogate (n : Nat) : Bool :=
  0xdc00 ≤ n && n ≤ 0xdfff

def isHighSurrogate (n : Nat) : Bool :=
  0xd800 ≤ n && n ≤ 0xdbff

def pairMark (mark : Char) : List Char → Except Failure (List Char)
  | [] => .error ⟨.endOfString, 0⟩
  | c :: rest =>
    if c = mark then .ok rest else .error (failureAfter .unpairedSurrogate (c :: rest))

theorem length_of_pairMark {mark : Char} {cs rest : List Char} (h : pairMark mark cs = .ok rest) :
    rest.length < cs.length := by
  unfold pairMark at h
  split at h
  · simp at h
  · split at h
    · simp_all
    · simp at h

def numberedEscape (cs : List Char) : Except Failure (Char × List Char) := do
  let (n, rest) ← hexEscape cs
  if isLowSurrogate n then
    throw (failure .loneSurrogate rest)
  else if isHighSurrogate n then
    let rest ← pairMark '\\' rest
    let rest ← pairMark 'u' rest
    let (m, rest) ← hexEscape rest
    if isLowSurrogate m then
      return (Char.ofNat ((n - 0xd800) * 0x400 + (m - 0xdc00) + 0x10000), rest)
    else
      throw (failure .loneSurrogate rest)
  else
    return (Char.ofNat n, rest)

theorem length_of_numberedEscape {cs rest : List Char} {c : Char}
    (h : numberedEscape cs = .ok (c, rest)) : rest.length < cs.length := by
  unfold numberedEscape at h
  cases hfirst : hexEscape cs with
  | error e => simp [hfirst, bind, Except.bind] at h
  | ok first =>
    obtain ⟨n, rest₁⟩ := first
    have hlt₁ := length_of_hexEscape hfirst
    simp only [hfirst, bind, Except.bind] at h
    split at h
    · simp [throw, throwThe, MonadExceptOf.throw] at h
    · split at h
      · cases hslash : pairMark '\\' rest₁ with
        | error e => simp [hslash] at h
        | ok rest₂ =>
          have hlt₂ := length_of_pairMark hslash
          simp only [hslash] at h
          cases hu : pairMark 'u' rest₂ with
          | error e => simp [hu] at h
          | ok rest₃ =>
            have hlt₃ := length_of_pairMark hu
            simp only [hu] at h
            cases hsecond : hexEscape rest₃ with
            | error e => simp [hsecond] at h
            | ok second =>
              obtain ⟨m, rest₄⟩ := second
              have hlt₄ := length_of_hexEscape hsecond
              simp only [hsecond] at h
              split at h
              · simp only [pure, Except.pure, Except.ok.injEq, Prod.mk.injEq] at h
                obtain ⟨_, rfl⟩ := h
                omega
              · simp [throw, throwThe, MonadExceptOf.throw] at h
      · simp only [pure, Except.pure, Except.ok.injEq, Prod.mk.injEq] at h
        obtain ⟨_, rfl⟩ := h
        exact hlt₁

def escape (cs : List Char) : Except Failure (Char × List Char) :=
  match cs with
  | [] => .error ⟨.endOfString, 0⟩
  | c :: rest =>
    match simpleEscapes.lookup c with
    | some d => .ok (d, rest)
    | none =>
      if c = 'u' then
        numberedEscape rest
      else
        .error (failureAfter .invalidEscape (c :: rest))

theorem length_of_escape {cs rest : List Char} {c : Char} (h : escape cs = .ok (c, rest)) :
    rest.length < cs.length := by
  unfold escape at h
  split at h
  · simp at h
  · split at h
    · simp only [Except.ok.injEq, Prod.mk.injEq] at h
      simp [h.2]
    · split at h
      · have := length_of_numberedEscape h
        simp only [List.length_cons]
        omega
      · simp at h

def stringBody : Reader String :=
  fun cs => go cs []
where
  go (cs : List Char) (read : List Char) : Except Failure (String × List Char) :=
    match cs with
    | [] => .error ⟨.endOfString, 0⟩
    | c :: rest =>
      if c = '"' then
        .ok (String.ofList read.reverse, rest)
      else if c = '\\' then
        match hescape : escape rest with
        | .ok (d, rest') =>
          have : rest'.length < rest.length := length_of_escape hescape
          go rest' (d :: read)
        | .error failure => .error failure
      else if c.toNat < 0x20 then
        .error (failure .controlCharacter rest)
      else
        go rest (c :: read)
  termination_by cs.length
  decreasing_by all_goals simp only [List.length_cons]; omega

end NetScript.Json.Reader
