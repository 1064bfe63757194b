import Mathlib.Data.List.DropRight
import Mathlib.Tactic.Ring

set_option autoImplicit false

/-! Three bytes are four symbols of six bits. A reader takes the standard symbols beside the
URL-safe ones. -/
namespace Kivou.Base64

def symbol (n:ℕ):Char:=
 if n<26 then Char.ofNat (65+n)
 else if n<52 then Char.ofNat (71+n)
 else if n<62 then Char.ofNat (n-4)
 else if n=62 then '-'
 else '_'

def value? (c:Char):Option ℕ:=
 let n:=c.toNat
 if 65≤n ∧ n≤90 then some (n-65)
 else if 97≤n ∧ n≤122 then some (n-71)
 else if 48≤n ∧ n≤57 then some (n+4)
 else if c = '-' ∨ c = '+' then some 62
 else if c = '_' ∨ c = '/' then some 63
 else none

lemma value_symbol_table :
 ∀n<64,value? (symbol n)=some n ∧ symbol n ≠ '=' ∧ (symbol n).toNat<128:=by decide

lemma value_symbol {n:ℕ}(h:n<64):value? (symbol n)=some n:=(value_symbol_table n h).1

lemma symbol_ne_pad {n:ℕ}(h:n<64):symbol n ≠ '=' := (value_symbol_table n h).2.1

/-- `urlsafe_b64encode`. -/
def encode:List ℕ→List Char
 | []=>[]
 | [a]=>[symbol (a/4),symbol (a%4*16),'=','=']
 | [a,b]=>[symbol (a/4),symbol (a%4*16+b/16),symbol (b%16*4),'=']
 | a::b::c::bytes =>
  symbol (a/4)::symbol (a%4*16+b/16)::symbol (b%16*4+c/64) ::symbol (c%64)::encode bytes

/-- `a2b_base64` in strict mode: how many symbols of the group are read, the bits
they leave over, the padding read after them, and whether any was read. -/
def read (quad left pads:ℕ)(padded:Bool):List Char→Option (List ℕ)
 | []=>if quad=0 then some [] else none
 | c::cs =>
  if c = '=' then
   if quad<2 then read quad left pads true cs
   else if 4≤quad+(pads+1) then if cs=[] then some [] else none
   else read quad left (pads+1) true cs
  else
   match value? c with
   | none=>none
   | some v =>
    if padded then none
    else
     match quad with
     | 0=>read 1 v 0 false cs
     | 1=>(read 2 (v%16) 0 false cs).map ((left*4+v/16)::·)
     | 2=>(read 3 (v%4) 0 false cs).map ((left*16+v/4)::·)
     | _=>(read 0 0 0 false cs).map ((left*64+v)::·)

/-- `b64decode` with `validate`. -/
def decode (cs:List Char):Option (List ℕ):=
 if cs.head?=some '=' then none else read 0 0 0 false cs

lemma read_symbol {quad left:ℕ}{v:ℕ}(h:v<64)(cs:List Char) : read quad left 0 false (symbol v::cs) =
   match quad with
   | 0=>read 1 v 0 false cs
   | 1=>(read 2 (v%16) 0 false cs).map ((left*4+v/16)::·)
   | 2=>(read 3 (v%4) 0 false cs).map ((left*16+v/4)::·)
   | _=>(read 0 0 0 false cs).map ((left*64+v)::·):=by
 conv_lhs=>unfold read
 rw[if_neg (symbol_ne_pad h),value_symbol h]
 simp only[Bool.false_eq_true,if_false]

variable {left v:ℕ}{cs:List Char}

lemma read_first (h:v<64):read 0 left 0 false (symbol v::cs)=read 1 v 0 false cs:=read_symbol h cs

lemma read_second (h:v<64) : read 1 left 0 false (symbol v::cs) =
  (read 2 (v%16) 0 false cs).map ((left*4+v/16)::·):=
 read_symbol h cs

lemma read_third (h:v<64) : read 2 left 0 false (symbol v::cs) =
  (read 3 (v%4) 0 false cs).map ((left*16+v/4)::·):=
 read_symbol h cs

lemma read_fourth (h:v<64) :
 read 3 left 0 false (symbol v::cs)=(read 0 0 0 false cs).map ((left*64+v)::·):=
 read_symbol h cs

variable {bytes:List ℕ}

lemma read_encode (small:∀b∈bytes,b<256) : read 0 0 0 false (encode bytes)=some bytes:=by
 induction bytes using encode.induct with
 | case1=>rfl
 | case2 a =>
  have ha:a<256:=small a List.mem_cons_self
  rw[encode,read_first (by omega),read_second (by omega)]
  have whole:a/4*4+a%4*16/16=a:=by omega
  simp only[whole]
  rfl
 | case3 a b =>
  have ha:a<256:=small a List.mem_cons_self
  have hb:b<256:=small b (List.mem_cons_of_mem a List.mem_cons_self)
  rw[encode,read_first (by omega),read_second (by omega),read_third (by omega)]
  have first:a/4*4+(a%4*16+b/16)/16=a:=by omega
  have second:(a%4*16+b/16)%16*16+b%16*4/4=b:=by omega
  simp only[first,second]
  rfl
 | case4 a b c bytes ih =>
  have ha:a<256:=small a List.mem_cons_self
  have hb:b<256:=small b (List.mem_cons_of_mem a List.mem_cons_self)
  have hc:c<256:=small c (List.mem_cons_of_mem a (List.mem_cons_of_mem b List.mem_cons_self))
  have rest:∀d∈bytes,d<256:=fun d mem=>small d
   (List.mem_cons_of_mem a (List.mem_cons_of_mem b (List.mem_cons_of_mem c mem)))
  rw[encode,read_first (by omega),read_second (by omega),read_third (by omega),
   read_fourth (by omega)]
  have first:a/4*4+(a%4*16+b/16)/16=a:=by omega
  have second:(a%4*16+b/16)%16*16+(b%16*4+c/64)/4=b:=by omega
  have third:(b%16*4+c/64)%4*64+c%64=c:=by omega
  simp only[first,second,third,ih rest,Option.map_some]

lemma head_encode (small:∀b∈bytes,b<256) : (encode bytes).head?≠some '=' := by
 cases bytes with
 | nil=>nofun
 | cons a bytes =>
  have ha:a<256:=small a List.mem_cons_self
  have head:(encode (a::bytes)).head?=some (symbol (a/4)):=by
   cases bytes with
   | nil=>rfl
   | cons b bytes=>cases bytes <;> rfl
  rw[head]
  exact fun pad=>symbol_ne_pad (by omega) (Option.some.inj pad)

lemma decode_encode (small:∀b∈bytes,b<256) : decode (encode bytes)=some bytes:=by
 rw[decode,if_neg (head_encode small),read_encode small]

def symbols:List ℕ→List Char
 | []=>[]
 | [a]=>[symbol (a/4),symbol (a%4*16)]
 | [a,b]=>[symbol (a/4),symbol (a%4*16+b/16),symbol (b%16*4)]
 | a::b::c::bytes =>
  symbol (a/4)::symbol (a%4*16+b/16)::symbol (b%16*4+c/64) ::symbol (c%64)::symbols bytes

def padding (length:ℕ):List Char:=List.replicate ((4-length%4)%4) '='

lemma length_symbols (bytes:List ℕ):(symbols bytes).length=(4*bytes.length+2)/3:=by
 induction bytes using symbols.induct with
 | case1=>rfl
 | case2 a=>simp[symbols]
 | case3 a b=>simp[symbols]
 | case4 a b c bytes ih =>
  simp only[symbols,List.length_cons,ih]
  omega

lemma encode_eq (bytes:List ℕ) : encode bytes=symbols bytes++padding (symbols bytes).length:=by
 induction bytes using symbols.induct with
 | case1=>rfl
 | case2 a=>rfl
 | case3 a b=>rfl
 | case4 a b c bytes ih =>
  have groups:padding ((symbols bytes).length+1+1+1+1)=padding (symbols bytes).length:=by
   unfold padding
   congr 1
   omega
  simp only[encode,symbols,List.length_cons,List.cons_append,groups,ih]

lemma mem_symbols (small:∀b∈bytes,b<256) : ∀c∈symbols bytes,∃n<64,c=symbol n:=by
 induction bytes using symbols.induct with
 | case1=>nofun
 | case2 a =>
  have ha:a<256:=small a List.mem_cons_self
  intro c mem
  simp only[symbols,List.mem_cons,List.not_mem_nil,or_false] at mem
  rcases mem with rfl|rfl
  · exact ⟨_,by omega,rfl⟩
  · exact ⟨_,by omega,rfl⟩
 | case3 a b =>
  have ha:a<256:=small a List.mem_cons_self
  have hb:b<256:=small b (List.mem_cons_of_mem a List.mem_cons_self)
  intro c mem
  simp only[symbols,List.mem_cons,List.not_mem_nil,or_false] at mem
  rcases mem with rfl|rfl|rfl
  · exact ⟨_,by omega,rfl⟩
  · exact ⟨_,by omega,rfl⟩
  · exact ⟨_,by omega,rfl⟩
 | case4 a b d bytes ih =>
  have ha:a<256:=small a List.mem_cons_self
  have hb:b<256:=small b (List.mem_cons_of_mem a List.mem_cons_self)
  have hd:d<256:=small d (List.mem_cons_of_mem a (List.mem_cons_of_mem b List.mem_cons_self))
  have rest:∀e∈bytes,e<256:=fun e mem=>small e
   (List.mem_cons_of_mem a (List.mem_cons_of_mem b (List.mem_cons_of_mem d mem)))
  intro c mem
  simp only[symbols,List.mem_cons] at mem
  rcases mem with rfl|rfl|rfl|rfl|mem
  · exact ⟨_,by omega,rfl⟩
  · exact ⟨_,by omega,rfl⟩
  · exact ⟨_,by omega,rfl⟩
  · exact ⟨_,by omega,rfl⟩
  · exact ih rest c mem

lemma ascii_symbols (small:∀b∈bytes,b<256) : ∀c∈symbols bytes,c.toNat<128:=by
 intro c mem
 obtain ⟨n,lt,rfl⟩:=mem_symbols small c mem
 exact (value_symbol_table n lt).2.2

lemma rdropWhile_encode (small:∀b∈bytes,b<256) :
 (encode bytes).rdropWhile (· = '=')=symbols bytes:=by
 have none':∀c∈symbols bytes,c ≠ '=' := by
  intro c mem
  obtain ⟨n,lt,rfl⟩:=mem_symbols small c mem
  exact symbol_ne_pad lt
 have stop:(symbols bytes).rdropWhile (· = '=')=symbols bytes:=
  List.rdropWhile_eq_self_iff.mpr fun filled pad=>
   none' _ (List.getLast_mem filled) (of_decide_eq_true pad)
 rw[encode_eq,padding]
 induction (4-(symbols bytes).length%4)%4 with
 | zero=>rw[List.replicate_zero,List.append_nil,stop]
 | succ n ih=>rw[List.replicate_succ',←List.append_assoc,List.rdropWhile_concat_pos _ _ _ rfl,ih]

end Kivou.Base64
