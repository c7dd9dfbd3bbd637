import CryptoAudit.Taxonomy.Registry

/-!
# The built-in taxonomy

## Main definitions

* `builtinTable`: the algorithms known without any settings
* `Registry.builtin`: their registry
-/

namespace CryptoAudit

/-- The names of each category, the strong ones first. -/
def builtinTable : List (Category × List String × List String) :=
  [(.hashing,
    ["DSA", "ED25519", "ES256", "ECDSA256", "ES384", "ECDSA384", "ES512", "ECDSA512", "SHA2",
      "SHA224", "SHA256", "SHA384", "SHA512", "SHA3", "SHA3224", "SHA3256", "SHA3384",
      "SHA3512"],
    ["HAVEL128", "MD2", "MD4", "MD5", "PANAMA", "RIPEMD", "RIPEMD128", "RIPEMD256", "RIPEMD160",
      "RIPEMD320", "SHA0", "SHA1"]),
   (.encryption,
    ["AES", "AES128", "AES192", "AES256", "AES512", "RSA", "RABBIT", "BLOWFISH"],
    ["DES", "3DES", "TRIPLEDES", "TDEA", "TRIPLEDEA", "ARC2", "RC2", "ARC4", "RC4", "ARCFOUR",
      "ARC5", "RC5"]),
   (.passwordHashing,
    ["ARGON2", "PBKDF2", "BCRYPT", "SCRYPT"],
    ["EVPKDF"])]

/-- The entry with a name, if the name is canonical. -/
def entryOf? (c : Category) (isWeak : Bool) (name : String) : Option Entry :=
  if h : IsCanonical name then some ⟨c, name, isWeak, h⟩ else none

/-- The entries of the built-in table. -/
def builtinEntries : List Entry :=
  builtinTable.flatMap fun (c, strong, weak) =>
    strong.filterMap (entryOf? c false) ++ weak.filterMap (entryOf? c true)

theorem isSome_ofEntries_builtin : (Registry.ofEntries builtinEntries).toOption.isSome = true := by
  decide +kernel

/-- The registry used when no other is configured. -/
def Registry.builtin : Registry :=
  (Registry.ofEntries builtinEntries).toOption.get isSome_ofEntries_builtin

theorem Registry.ofEntries_builtin : Registry.ofEntries builtinEntries = .ok Registry.builtin := by
  cases h : Registry.ofEntries builtinEntries with
  | error e => exact absurd isSome_ofEntries_builtin (by simp [h, Except.toOption])
  | ok r => simp [Registry.builtin, h, Except.toOption]

end CryptoAudit
