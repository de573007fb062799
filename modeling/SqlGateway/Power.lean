namespace SqlGateway

def twoTo (n : Nat) : Nat := Nat.pow 2 n

def tenTo (n : Nat) : Nat := Nat.pow 10 n

def int32Min : Int := -0x80000000

def int32Max : Int := 0x7fffffff

def int64Min : Int := -0x8000000000000000

def int64Max : Int := 0x7fffffffffffffff

def uint64Max : Int := 0xffffffffffffffff

end SqlGateway
