import Covenant.Digest.Blake2
import Covenant.Digest.Crc32
import Covenant.Digest.Md5
import Covenant.Digest.Sha1
import Covenant.Digest.Sha2
import Covenant.Digest.Sha3
import Covenant.Text

namespace Covenant.Digest

/-- The algorithms whose digests have one length. -/
inductive Algorithm where
  | md5
  | sha1
  | sha224
  | sha256
  | sha384
  | sha512
  | sha3_224
  | sha3_256
  | sha3_384
  | sha3_512
  | blake2b
  | blake2s
  | crc32
  deriving DecidableEq

namespace Algorithm

def ofName? : String → Option Algorithm
  | "md5" => some md5
  | "sha1" => some sha1
  | "sha224" => some sha224
  | "sha256" => some sha256
  | "sha384" => some sha384
  | "sha512" => some sha512
  | "sha3_224" => some sha3_224
  | "sha3_256" => some sha3_256
  | "sha3_384" => some sha3_384
  | "sha3_512" => some sha3_512
  | "blake2b" => some blake2b
  | "blake2s" => some blake2s
  | "crc32" => some crc32
  | _ => none

/-- The names of algorithms whose digests have any length that is asked for. -/
def variableNames : List String := ["shake_128", "shake_256"]

/-- The number of bytes of a digest. -/
def size : Algorithm → Nat
  | md5 => 16
  | sha1 => 20
  | sha224 | sha3_224 => 28
  | sha256 | sha3_256 | blake2s => 32
  | sha384 | sha3_384 => 48
  | sha512 | sha3_512 | blake2b => 64
  | crc32 => 4

def digest (algorithm : Algorithm) (data : List UInt8) : List UInt8 :=
  match algorithm with
  | md5 => Md5.digest data
  | sha1 => Sha1.digest data
  | sha224 => Sha2.sha224 data
  | sha256 => Sha2.sha256 data
  | sha384 => Sha2.sha384 data
  | sha512 => Sha2.sha512 data
  | sha3_224 => Sha3.digest 28 data
  | sha3_256 => Sha3.digest 32 data
  | sha3_384 => Sha3.digest 48 data
  | sha3_512 => Sha3.digest 64 data
  | blake2b => Blake2.digest Blake2.large data
  | blake2s => Blake2.digest Blake2.small data
  | crc32 => bigBytes 4 (Crc32.checksum data)

/-- The digest in hexadecimal. -/
def hexDigest (algorithm : Algorithm) (data : List UInt8) : List Char :=
  (algorithm.digest data).flatMap fun b => hexDigits 2 b.toNat

end Algorithm
end Covenant.Digest
