import Mathlib.Logic.Basic

/-!
# Authenticated encryption with associated data

A scheme seals a plaintext under a key, a nonce and associated data, and opens
a ciphertext with its tag.  Sealing may fail.  Opening undoes sealing, and an
ideal scheme opens nothing that was not sealed: every ciphertext that it opens
is the result of one encryption of the log, under the same key, nonce and
associated data.
-/

namespace Aead

universe u v

/-- An authenticated cipher over an alphabet, with tags of a fixed length. -/
structure Scheme (Key : Type u) (Symbol : Type v) where
  /-- Length of every tag. -/
  tagLength : Nat
  /-- Ciphertext and tag of a plaintext, when encryption succeeds. -/
  sealed :
    Key → List Symbol → List Symbol → List Symbol →
      Option (List Symbol × List Symbol)
  /-- Plaintext of a ciphertext with its tag, when they are accepted. -/
  opened :
    Key → List Symbol → List Symbol → List Symbol → List Symbol →
      Option (List Symbol)
  /-- The cipher is a stream cipher: ciphertexts are as long as plaintexts. -/
  ciphertext_length :
    ∀ {key nonce associated plaintext ciphertext tag},
      sealed key nonce associated plaintext = some (ciphertext, tag) →
        ciphertext.length = plaintext.length
  /-- Tags have the fixed length. -/
  tag_length :
    ∀ {key nonce associated plaintext ciphertext tag},
      sealed key nonce associated plaintext = some (ciphertext, tag) →
        tag.length = tagLength
  /-- What was sealed is opened to its plaintext. -/
  opened_sealed :
    ∀ {key nonce associated plaintext ciphertext tag},
      sealed key nonce associated plaintext = some (ciphertext, tag) →
        opened key nonce associated ciphertext tag = some plaintext

/-- The arguments of one encryption. -/
structure Encryption (Key : Type u) (Symbol : Type v) where
  /-- Key of the encryption. -/
  key : Key
  /-- Nonce of the encryption. -/
  nonce : List Symbol
  /-- Associated data of the encryption. -/
  associated : List Symbol
  /-- Encrypted plaintext. -/
  plaintext : List Symbol

namespace Scheme

variable {Key : Type u} {Symbol : Type v}

/-- Opening succeeds only on the result of an encryption of the log, under the
same key, nonce and associated data. -/
def IdealFor
    (scheme : Scheme Key Symbol)
    (log : Encryption Key Symbol → Prop) : Prop :=
  ∀ key nonce associated ciphertext tag,
    (scheme.opened key nonce associated ciphertext tag).isSome →
      ∃ plaintext, log ⟨key, nonce, associated, plaintext⟩ ∧
        scheme.sealed key nonce associated plaintext = some (ciphertext, tag)

/-- A scheme that seals exactly the encryptions of a list, by identity, and
opens exactly the results. -/
def ofList [DecidableEq Key] [DecidableEq Symbol]
    (encryptions : List (Key × List Symbol × List Symbol × List Symbol))
    (tag : List Symbol) : Scheme Key Symbol where
  tagLength := tag.length
  sealed key nonce associated plaintext :=
    if (key, nonce, associated, plaintext) ∈ encryptions then
      some (plaintext, tag)
    else none
  opened key nonce associated ciphertext received :=
    if (key, nonce, associated, ciphertext) ∈ encryptions ∧ received = tag then
      some ciphertext
    else none
  ciphertext_length := by
    intro key nonce associated plaintext ciphertext received success
    simp only [Option.ite_none_right_eq_some, Option.some.injEq,
      Prod.mk.injEq] at success
    rw [success.2.1]
  tag_length := by
    intro key nonce associated plaintext ciphertext received success
    simp only [Option.ite_none_right_eq_some, Option.some.injEq,
      Prod.mk.injEq] at success
    rw [success.2.2]
  opened_sealed := by
    intro key nonce associated plaintext ciphertext received success
    simp only [Option.ite_none_right_eq_some, Option.some.injEq,
      Prod.mk.injEq] at success
    obtain ⟨member, rfl, rfl⟩ := success
    simp [member]

/-- A scheme that seals one encryption, with a given result, and nothing else. -/
def ofVector [DecidableEq Key] [DecidableEq Symbol]
    (encryption : Encryption Key Symbol)
    (ciphertext tag : List Symbol)
    (length : ciphertext.length = encryption.plaintext.length) :
    Scheme Key Symbol where
  tagLength := tag.length
  sealed key nonce associated plaintext :=
    if key = encryption.key ∧ nonce = encryption.nonce ∧
        associated = encryption.associated ∧
        plaintext = encryption.plaintext then
      some (ciphertext, tag)
    else none
  opened key nonce associated sealing received :=
    if key = encryption.key ∧ nonce = encryption.nonce ∧
        associated = encryption.associated ∧
        sealing = ciphertext ∧ received = tag then
      some encryption.plaintext
    else none
  ciphertext_length := by
    intro key nonce associated plaintext sealing received success
    simp only [Option.ite_none_right_eq_some, Option.some.injEq,
      Prod.mk.injEq] at success
    obtain ⟨⟨-, -, -, rfl⟩, rfl, -⟩ := success
    exact length
  tag_length := by
    intro key nonce associated plaintext sealing received success
    simp only [Option.ite_none_right_eq_some, Option.some.injEq,
      Prod.mk.injEq] at success
    rw [success.2.2]
  opened_sealed := by
    intro key nonce associated plaintext sealing received success
    simp only [Option.ite_none_right_eq_some, Option.some.injEq,
      Prod.mk.injEq] at success
    obtain ⟨⟨rfl, rfl, rfl, rfl⟩, rfl, rfl⟩ := success
    simp

/-- The scheme of a list is ideal for every log that contains the list. -/
theorem ofList_idealFor [DecidableEq Key] [DecidableEq Symbol]
    {encryptions : List (Key × List Symbol × List Symbol × List Symbol)}
    {tag : List Symbol}
    {log : Encryption Key Symbol → Prop}
    (logged : ∀ entry ∈ encryptions,
      log ⟨entry.1, entry.2.1, entry.2.2.1, entry.2.2.2⟩) :
    (ofList encryptions tag).IdealFor log := by
  intro key nonce associated ciphertext received accepted
  simp only [ofList, Option.isSome_ite] at accepted
  obtain ⟨member, rfl⟩ := accepted
  exact ⟨ciphertext, logged _ member, by simp [ofList, member]⟩

end Scheme

end Aead
