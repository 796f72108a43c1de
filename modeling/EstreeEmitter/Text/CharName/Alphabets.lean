set_option autoImplicit false

/-! # Names of characters: Alphabets and syllabaries

Runs of neighbouring characters, each with the code point of the first one, in the notation of
`EstreeEmitter.Text.nameEntries`. -/

namespace EstreeEmitter.Text

/-- The names of the characters below U+2000. -/
def alphabetNames : List (Nat × String) := [
  (0x20, "axkaqdtnavwtnaunxaaDOLLARxaaPERCENTxaaAMPERSANDamoasuvfawbvfamxavjxaaoeaHYPHEN-MINUSaqqxq
axiapgzzbuvbzcbylbqnbqibxebwpbptbufaocawnaszxaapzxaaqxxaavvtnaCOMMERCIAL ATastnptaAdBdCdDdEdFdGdHdI
dJdKdLdMdNdOdPdQdRdSdTdUdVdWdXdYdZasuxmnkavzxiawbxmnkanzmcathtdaqwmcastxgtaAdBdCdDdEdFdGdHdIdJdKdLdM
dNdOdPdQdRdSdTdUdVdWdXdYdZasuoonkazltdawboonkayo"),
  (0xA0, "aNO-BREAKxkasdqdtnaCENTxaaPOUNDxaaCURRENCYxaaYENxaaBROKENmzawlxaapbaCOPYRIGHTxa
aFEMININE ORDINAL INDICATORasvpnmlvwtnaukxaaSOFT HYPHENaREGISTEREDxaatkaDEGREExaaPLUS-MINUSxaaxvzc
bylamdmcaMICROxaaPILCROWxaatspjanraxvuvaMASCULINE ORDINAL INDICATORawcpnmlvwtnaVULGARqouvvtdrdcylvu
asdvvtnastnptaAzvqwfmdfnzfyofpbfwembdAEdCzvnrdEzvqwfmdfnzfpbdIzvqwfmdfnzfpbdETHdNzvyodOzvqwfmdfnzfyo
fpbauaxaastnptaOzvxsdUzvqwfmdfnzfpbdYzvmddTHORNbxgtaSHARP SdAzvqwfmdfnzfyofpbfwembdAEdCzvnrdEzvqwfmd
fnzfpbdIzvqwfmdfnzfpbdETHdNzvyodOzvqwfmdfnzfyofpbaDIVISIONxaastxgtaOzvxsdUzvqwfmdfnzfpbdYzvmddTHORN
dYzvpbbnptaAzvtkbxgtaAzvtkbnptaAzvnlbxgtaAzvnlbnptaAzvurbxgtaAzvurbnptaCzvmdbxgtaCzvmdbnptaCzvnz
bxgtaCzvnzbnptaCzvpjmbbxgtaCzvpjmbbnptaCzvnqbxgtaCzvnqbnptaDzvnqbxgtaDzvnqbnptaDzvxsbxgtaDzvxs
bnptaEzvtkbxgtaEzvtkbnptaEzvnlbxgtaEzvnlbnptaEzvpjmbbxgtaEzvpjmbbnptaEzvurbxgtaEzvurbnptaEzvnq
bxgtaEzvnqbnptaGzvnzbxgtaGzvnzbnptaGzvnlbxgtaGzvnlbnptaGzvpjmbbxgtaGzvpjmbbnptaGzvnrbxgtaGzvnr
bnptaHzvnzbxgtaHzvnzbnptaHzvxsbxgtaHzvxsbnptaIzvyobxgtaIzvyobnptaIzvtkbxgtaIzvtkbnptaIzvnlbxgtaIzvnl
bnptaIzvurbxgtaIzvurbnptaIzvpjmbbxgtapkIbnptbIJbxgtbIJbnptaJzvnzbxgtaJzvnzbnptaKzvnrbxgtaKzvnrdKRA
bnptaLzvmdbxgtaLzvmdbnptaLzvnrbxgtaLzvnrbnptaLzvnqbxgtaLzvnqbnptaLzvtspjbxgtaLzvtspjbnptaLzvxs
bxgtaLzvxsbnptaNzvmdbxgtaNzvmdbnptaNzvnrbxgtaNzvnrbnptaNzvnqbxgtaNzvnqePRECEDED BYmobnptaENGbxgtaENG
bnptaOzvtkbxgtaOzvtkbnptaOzvnlbxgtaOzvnlbnptaOzvpnmdbxgtaOzvpnmdbnptbOEbxgtbOEbnptaRzvmdbxgtaRzvmd
bnptaRzvnrbxgtaRzvnrbnptaRzvnqbxgtaRzvnqbnptaSzvmdbxgtaSzvmdbnptaSzvnzbxgtaSzvnzbnptaSzvnrbxgtaSzvnr
bnptaSzvnqbxgtaSzvnqbnptaTzvnrbxgtaTzvnrbnptaTzvnqbxgtaTzvnqbnptaTzvxsbxgtaTzvxsbnptaUzvyobxgtaUzvyo
bnptaUzvtkbxgtaUzvtkbnptaUzvnlbxgtaUzvnlbnptaUzvwembbxgtaUzvwembbnptaUzvpnmdbxgtaUzvpnmdbnptaUzvur
bxgtaUzvurbnptaWzvnzbxgtaWzvnzbnptaYzvnzbxgtaYzvnzbnptaYzvpbdZzvmdbxgtaZzvmdbnptaZzvpjmbbxgtaZzvpjmb
bnptaZzvnqbxgtaZzvnqdtgSdBzvxsbnptaBzvrrfTOPBARbxgtaBzvTOPBARbnptayqxebxgtayqxebnptauwOdCzvrr
bxgtaCzvrrbnptaAFRICAN DdDzvrrfTOPBARbxgtaDzvTOPBARdzaoybnptawaEdSCHWAduwEdFzvrrbxgtaFzvrrbnptaGzvrr
dqrbxgtaHVbnptasedIzvxsdKzvrrbxgtaKzvrrdLzvmzdLAMBDAzvxsbnptazaMdNzvsurrbxgtaNzvtgwbLEGbnptaOzvtsyo
frtbxgtaOzvrtbnptaOIbxgtaOIbnptaPzvrrbxgtaPzvrrbtaYRbnptayqzcbxgtayqzcbnptaESHbtawaESH LOOP
bxgtaTzvverrbnptaTzvrrbxgtaTzvrrbnptaTzvvyrrdUzvrtbxgtaUzvrtbnptazhdVzvrrdYzvrrbxgtaYzvrrbnptaZzvxs
bxgtaZzvxsbnptaEZHewabxgtaEZHwaezvyabtazczvxsbnptayqqibxgtayqqibtasdquxqzvxscWYNNcDENTAL CLICK
cLATERAL CLICKcALVEOLAR CLICKcvyCLICKbnptaDZzvnqdDzvxgtaZzvnqbxgtaDZzvnqbnptaLJdLzvxgtaJbxgtaLJ
bnptaNJdNzvxgtaJbxgtaNJbnptaAzvnqbxgtaAzvnqbnptaIzvnqbxgtaIzvnqbnptaOzvnqbxgtaOzvnqbnptaUzvnq
bxgtaUzvnqbnptaUzvpbmktkbxgtaUzvpbmktkbnptaUzvpbmkmdbxgtaUzvpbmkmdbnptaUzvpbmknqbxgtaUzvpbmknq
bnptaUzvpbmkqwbxgtaUzvpbmkqwdzaEbnptaAzvpbmktkbxgtaAzvpbmktkbnptaAzvpjmbmktkbxgtaAzvpjmbmktk
bnptaAEzvtkbxgtaAEzvtkbnptaGzvxsbxgtaGzvxsbnptaGzvnqbxgtaGzvnqbnptaKzvnqbxgtaKzvnqbnptaOzvur
bxgtaOzvurbnptaOzvurmktkbxgtaOzvurmktkbnptaEZHzvnqbxgtaEZHzvnqdJzvnqbnptaDZdDzvxgtaZbxgtaDZ
bnptaGzvmdbxgtaGzvmdbnptaHWAIRdWYNNdNzvqwbxgtaNzvqwbnptaAzvwembmkmdbxgtaAzvwembmkmdbnptaAEzvmd
bxgtaAEzvmdbnptaOzvxsmkmdbxgtaOzvxsmkmdbnptaAzvpnqwbxgtaAzvpnqwbnptaAzvsdnlbxgtaAzvsdnlbnptaEzvpnqw
bxgtaEzvpnqwbnptaEzvsdnlbxgtaEzvsdnlbnptaIzvpnqwbxgtaIzvpnqwbnptaIzvsdnlbxgtaIzvsdnlbnptaOzvpnqw
bxgtaOzvpnqwbnptaOzvsdnlbxgtaOzvsdnlbnptaRzvpnqwbxgtaRzvpnqwbnptaRzvsdnlbxgtaRzvsdnlbnptaUzvpnqw
bxgtaUzvpnqwbnptaUzvsdnlbxgtaUzvsdnlbnptaSzvoenbbxgtaSzvoenbbnptaTzvoenbbxgtaTzvoenbbnptaYOGH
bxgtaYOGHbnptaHzvnqbxgtaHzvnqbnptaNzvtgwbLEGbxgtaDzvCURLbnptaOUbxgtaOUbnptaZzvrrbxgtaZzvrr
bnptaAzvpjmbbxgtaAzvpjmbbnptaEzvnrbxgtaEzvnrbnptaOzvpbmktkbxgtaOzvpbmktkbnptaOzvyomktkbxgtaOzvyomktk
bnptaOzvpjmbbxgtaOzvpjmbbnptaOzvpjmbmktkbxgtaOzvpjmbmktkbnptaYzvtkbxgtaYzvtkdLzvCURLdNzvCURLdTzvCURL
dpkJdDBphdQPphbnptaAzvxsdCzvxsbxgtaCzvxsbnptaLzvmzdTzvpcxsbxgtaSzvSWASHyadZzvSWASHyabnptaquxq
bxgtaquxqbnptaBzvxsdUmzdzaVdEzvxsbxgtaEzvxsbnptaJzvxsbxgtaJzvxsbnptaxgQzvrryabxgtaQzvrryabnptaRzvxs
bxgtaRzvxsbnptaYzvxsbxgtaYzvxsdzaAdmhdzamhdBzvrrduwOdCzvCURLdDzvyafrrdwaEdSCHWAezvrrduwEdwauwEgzvrr
dobwauwEdpkJzvxsdGzvrrdwkGbtaxgnpGbxgtaqrdRAMSrtdzaHdHzvrrdHENGzvrrdIzvxsdsebtaxgnpIbxgtaLzvtsyo
fBELTfvyrrdLEZHdzaMfzvtgLEGdMzvrrdNzvsurrfvyrrbtaxgnpNbxgtaBARRED ObtaxgnpOEbxgtaobutdPHIdzaR
fzvtgLEGgrrdRzvtgLEGfyafFISHHOOKdwaRzvFISHHOOKbtaxgnpResdRbxgtaSzvrrdESHdpkJzvxsmkrrdSQUATwaESH
dESHzvCURLdzaTdTzvvyrrdUmzdzhdVzvrrdzaVeWeYbtaxgnpYbxgtaZzvvyrrfCURLdEZHezvCURLbtaquxq
cPHARYNGEAL VOICED FRICATIVEcsdquxqcSTRETCHED CcBILABIAL CLICKcxgnpBbxgtaobuwEbtaxgnpGzvrreH
bxgtaJzvoldzaKbtaxgnpLbxgtaQzvrrbtaquxqzvxscwaquxqzvxsbxgtaDZphdDEZHphdDZphzvCURLdTSphdTESHph
dTCphzvCURLdFENGphdLSphdLZphbtaBILABIAL PERCUSSIVEcBIDENTAL PERCUSSIVEbxgtazaHzvFISHHOOKhmkya
atutaxgHezvrrdJdRdzaRfzvrrdnpsdRdWdYcPRIMEcpnPRIMEczaoecmocwaoecwbrdwecsurdwecquxqcwaquxqcsumucwbmu
cUPmucppmucnzmcanqatutazltdctkcmdmccqwmccthzltddtkdqwmcdmdmccywoccrdywoccCENTREDwbrdwedsurdwecUPxz
cppxzcvjxacttxaanlapjmbawembauraxgyoapnmdmcatutaRHOTICrrcojmccxgqrdLdSdXdwaquxqcEXTRA-HIGHyqmz
croyqmzcMIDyqmzcthyqmzcEXTRA-LOWyqmzcYIN DEPARTINGyqtncYANG DEPARTINGyqtncVOICINGcUNASPIRATEDcpnmo
cthppmudUPmudsumudwbmudwectsqwmcdpnqwmcemdmccthyocvxoccBEGINroyqcENDroyqcBEGINthyqcENDthyqcSHELF
cuwSHELFcthsumtaodqwmcbmdmcbnzmcbyobtkbOVERLINEbnlbpjmbbpbbrrmbbwembbpnmdmcbnqbzltdmbbpnzltdmbcqwmc
bnobsdnlbzaoembboembbwaoembboembwbbqwmcnbbmdmcnbbsuxznbbwbxznbbsumlmbbrtbsurdwenbbUPxznbbppxznb
bvjxanbbttxanbbPALATALIZEDrrnbbvyrrnbbpjnbbpbnbbwenbboenbbnrburbzltdnbbBRIDGEnbbsdpnARCHnbbnqnb
bnzmcnbbnlnbbsdnlnbbyonbbtknbbthtdbpnthtdbyovcbwxxsvcbtgxsvcbwxxivcbtgxivcbwbrdwenbbsdBRIDGEnbbxmnb
bSEAGULLnbbXmbbzlyobpnOVERLINEbqwyqtnbmdyqtnbqyvgcKORONIScpdyrczybBRIDGEmbbpzxanbbpnzltdnbbsumlnb
bukyombbHOMOTHETICmbbmfpyTOmbbsuwbmtnbbzimtnbbGRAPHEME JOINERbwbmumbbsurdwembbFERMATAbXnbbsumunb
bwbmunbdmkUPmunbcrdwembbpjmbwbbmxnbbpnwenbbZIGZAGmbbpnnlnbcnlctkdnbcyocsdnlcwdmtnbbstxgtaAeEeIeOeUeC
eDeHeMeReTeVeXaqynptaHETAbxgtaHETAbnptamrSAMPIbxgtamrSAMPIbNUMERALxabtiNUMERALxa
bnptaPAMPHYLIAN DIGAMMAbxgtaPAMPHYLIAN DIGAMMA"),
  (0x37A, "aqyzybxgwaLUNATEwzxycpmLUNATEwzxycwapmLUNATEwzxybvvtnbnptaYOT"),
  (0x384, "aqyyrbpdyrbnptamhzvyrbANO TELEIAbnptapxzvyrdETAzvyrdsezvyr"),
  (0x38C, "aqynptauuzvyr"),
  (0x38E, "aqynptazhzvyrdutzvyrbxgtasezvpdmkyrbnptamhdBETAdqrdoydpxdZETAdETAdyidsedskdLAMDAdMUdNUdXI
duudPIdRHO"),
  (0x3A3, "aqynptawzdTAUdzhdPHIdCHIdPSIdutdsezvpddzhzvpdbxgtamhzvyrdpxzvyrdETAzvyrdsezvyrdzhzvpdmkyr
dmhdBETAdqrdoydpxdZETAdETAdyidsedskdLAMDAdMUdNUdXIduudPIdRHOdqgwzdwzdTAUdzhdPHIdCHIdPSIdutdsezvpd
dzhzvpdduuzvyrdzhzvyrdutzvyrbnpKAIxybBETAxybyixybzhzvrrxydmdmkrrxydpbmkrrxybPHIxybPIxybKAIxy
btamrKOPPAbxgtamrKOPPAbtaSTIGMAbxgtaSTIGMAbtaDIGAMMAbxgtaDIGAMMAbtaKOPPAbxgtaKOPPAbtaSAMPIbxgtaSAMPI
aohnptaSHEIbxgtaSHEIbnptaFEIbxgtaFEIbnptaKHEIbxgtaKHEIbnptaHORIbxgtaHORIbnptaGANGIAbxgtaGANGIA
bnptaSHIMAbxgtaSHIMAbnptaDEIbxgtaDEIaqyskxybRHOxybLUNATEwzxybtaYOTbnpyixybLUNATEpxxybwaLUNATEpxxy
bnptaSHObxgtaSHObnpLUNATEwzxyctaSANbxgtaSANbRHOzvxsxybnpwaLUNATEwzxycpmLUNATEwzxycwapmLUNATEwzxy
aoqnptaIEzvqwdIOdDJEdGJEdUKRAINIAN IEdDZEdBYELORUSSIAN-UKRAINIAN IdYIdJEdLJEdNJEdTSHEdKJEdIzvqwdwxU
dDZHEdAdBEdVEdGHEdDEdIEdZHEdZEdIdwxIdKAdELdEMdENdOdPEdERdESdTEdUdEFdHAdTSEdCHEdwrdSHCHAdHARDxadYERU
dSOFTxadEdYUdYAbxgtaAdBEdVEdGHEdDEdIEdZHEdZEdIdwxIdKAdELdEMdENdOdPEdERdESdTEdUdEFdHAdTSEdCHEdwr
dSHCHAdHARDxadYERUdSOFTxadEdYUdYAdIEzvqwdIOdDJEdGJEdUKRAINIAN IEdDZEdBYELORUSSIAN-UKRAINIAN IdYIdJE
dLJEdNJEdTSHEdKJEdIzvqwdwxUdDZHEbnptautbxgtautbnptaYATbxgtaYATbnptasfEbxgtasfEbnptateYUSbxgtateYUS
bnptasfteYUSbxgtasfteYUSbnptaBIG YUSbxgtaBIG YUSbnptasfBIG YUSbxgtasfBIG YUSbnptaKSIbxgtaKSIbnptaPSI
bxgtaPSIbnptaFITAbxgtaFITAbnptaIZHITSAbxgtaIZHITSAbnptaIZHITSAzvpnqwmcbxgtaIZHITSAzvpnqwmcbnptaUK
bxgtaUKbnptaROUNDutbxgtaROUNDutbnptautzvTITLObxgtautzvTITLObnptaOTbxgtaOTbnptaKOPPAbxgtaKOPPA
bTHOUSANDSxaaodoqTITLOcPALATALIZATIONcouPNEUMATAcvpPNEUMATAcPOKRYTIEcruTHOUSANDSxacMILLIONSxa
aoqnptawxIzvyabxgtawxIzvyabnptaSEMISOFTxabxgtaSEMISOFTxabnptaERzvTICKbxgtaERzvTICKbnptaGHEzvUPTURN
bxgtaGHEzvUPTURNbnptaGHEzvxsbxgtaGHEzvxsbnptaGHEzvtsrrbxgtaGHEzvtsrrbnptaZHEzvozbxgtaZHEzvoz
bnptaZEzvozbxgtaZEzvozbnptaKAzvozbxgtaKAzvozbnptaKAzvzlxsbxgtaKAzvzlxsbnptaKAzvxsbxgtaKAzvxs
bnptaBASHKIR KAbxgtaBASHKIR KAbnptaENzvozbxgtaENzvozbnptbEN GHEbxgtbEN GHEbnptaPEzvtsrrbxgtaPEzvtsrr
bnptaABKHASIAN HAbxgtaABKHASIAN HAbnptaESzvozbxgtaESzvozbnptaTEzvozbxgtaTEzvozbnptaxrUbxgtaxrU
bnptaxrUzvxsbxgtaxrUzvxsbnptaHAzvozbxgtaHAzvozbnptbTE TSEbxgtbTE TSEbnptaCHEzvozbxgtaCHEzvoz
bnptaCHEzvzlxsbxgtaCHEzvzlxsbnptaSHHAbxgtaSHHAbnptaABKHASIAN CHEbxgtaABKHASIAN CHE
bnptaABKHASIAN CHEzvozbxgtaABKHASIAN CHEzvozbtaPALOCHKAbnptaZHEzvnlbxgtaZHEzvnlbnptaKAzvrr
bxgtaKAzvrrbnptaELzvyabxgtaELzvyabnptaENzvrrbxgtaENzvrrbnptaENzvyabxgtaENzvyabnptaKHAKASSIAN CHE
bxgtaKHAKASSIAN CHEbnptaEMzvyabxgtaEMzvyadPALOCHKAbnptaAzvnlbxgtaAzvnlbnptaAzvpbbxgtaAzvpbbnptbA IE
bxgtbA IEbnptaIEzvnlbxgtaIEzvnlbnptaSCHWAbxgtaSCHWAbnptaSCHWAzvpbbxgtaSCHWAzvpbbnptaZHEzvpb
bxgtaZHEzvpbbnptaZEzvpbbxgtaZEzvpbbnptaABKHASIAN DZEbxgtaABKHASIAN DZEbnptaIzvtkbxgtaIzvtkbnptaIzvpb
bxgtaIzvpbbnptaOzvpbbxgtaOzvpbbnptaBARRED ObxgtaBARRED ObnptaBARRED OzvpbbxgtaBARRED OzvpbbnptaEzvpb
bxgtaEzvpbbnptaUzvtkbxgtaUzvtkbnptaUzvpbbxgtaUzvpbbnptaUzvpnmdbxgtaUzvpnmdbnptaCHEzvpbbxgtaCHEzvpb
bnptaGHEzvozbxgtaGHEzvozbnptaYERUzvpbbxgtaYERUzvpbbnptaGHEzvxsmkrrbxgtaGHEzvxsmkrrbnptaHAzvrr
bxgtaHAzvrrbnptaHAzvxsbxgtaHAzvxsbnptaKOMI DEbxgtaKOMI DEbnptaKOMI DJEbxgtaKOMI DJEbnptaKOMI ZJE
bxgtaKOMI ZJEbnptaKOMI DZJEbxgtaKOMI DZJEbnptaKOMI LJEbxgtaKOMI LJEbnptaKOMI NJEbxgtaKOMI NJE
bnptaKOMI SJEbxgtaKOMI SJEbnptaKOMI TJEbxgtaKOMI TJEbnptawaZEbxgtawaZEbnptaELzvrrbxgtaELzvrrbnptaLHA
bxgtaLHAbnptaRHAbxgtaRHAbnptaYAEbxgtaYAEbnptaQAbxgtaQAbnptaWEbxgtaWEbnptaALEUT KAbxgtaALEUT KA
bnptaELzvtsrrbxgtaELzvtsrrbnptaENzvtsrrbxgtaENzvtsrrbnptaPEzvozbxgtaPEzvozbnptaSHHAzvozbxgtaSHHAzvoz
bnptaENzvsurrbxgtaENzvsurrbnptaDZZHEbxgtaDZZHEbnptaDCHEbxgtaDCHEbnptaELzvozbxgtaELzvoz"),
  (0x531, "aARMENIANnptaAYBdBENdGIMdDAdECHdZAdEHdETdTOdZHEdINIdLIWNdXEHdCAdKENdHOdJAdGHADdCHEHdMEN
dYIdNOWdwrdVOdntdPEHdJHEHdRAdSEHdVEWdTIWNdREHdCOdYIWNdPIWRdKEHdOHdFEH"),
  (0x559, "aARMENIANtutasurdwebmobEMPHASIStnbqdtnboebvvtnbmatnbxgtazaAYBdAYBdBENdGIMdDAdECHdZAdEHdET
dTOdZHEdINIdLIWNdXEHdCAdKENdHOdJAdGHADdCHEHdMENdYIdNOWdwrdVOdntdPEHdJHEHdRAdSEHdVEWdTIWNdREHdCOdYIWN
dPIWRdKEHdOHdFEHctbECH YIWNctaYIzvxsbqqxqbHYPHEN"),
  (0x58D, "aRIGHT-FACING ARMENIAN ETERNITYxaaLEFT-FACING ARMENIAN ETERNITYxaaARMENIAN DRAMxa"),
  (0x591, "aHEBREWmcETNAHTAcSEGOLcSHALSHELETcZAQEF QATANdGADOLcTIPEHAcREVIAcZARQAcPASHTAcYETIVcTEVIR
cGERESHdMUQDAMcGERSHAYIMcQARNEY PARAcTELISHA GEDOLAcPAZERcATNAH HAFUKHcMUNAHcMAHAPAKHcMERKHAdKEFULA
cDARGAcQADMAcTELISHA QETANAcYERAH BEN YOMOcOLEcILUYcDEHIcZINORbtnMASORAnwbPOINT SHEVAcHATAF SEGOL
dPATAHdQAMATScHIRIQcTSEREcSEGOLcPATAHcQAMATScHOLAMdHASERqjVAVcQUBUTScorOR MAPIQcMETEGbvqMAQAF
bPOINT RAFEbvqPASEQbPOINTwwpjcSINpjbvqSOF PASUQbtnzgpjctipjbvquoHAFUKHAbPOINT QAMATS QATAN"),
  (0x5D0, "aHEBREWtamecBETcGIMELcDALETcHEcVAVcZAYINcHETcTETcYODcqgKAFcKAFcLAMEDcqgMEMcMEMcqguocuocwi
cAYINcqgPEcPEcqgTSADIcTSADIcQOFcRESHcwwcTAV"),
  (0x5EF, "aHEBREW YODyubtbYIDDISHpnVAVdVAV YODdpnYODbvqGERESHcGERSHAYIM"),
  (0x600, "ampunxabxaSANAHbFOOTNOTE MARKERbxaSAFHAcSAMVATbuntnmbamqCUBE ROOTbFOURTH ROOTampRAY
amqPER MILLExacyeykxaaAFGHANIxaampoebDATEwobPOETIC VERSExabxaMISRAcSALLALLAHOU ALAYHE WASSALLAM
cALAYHE ASSALLAMcRAHMATULLAH ALAYHEcRADI ALLAHOU ANHUcTAKHALLUSbxgroTAHdtbmezvsqzvzwdZAINcFATHA
cDAMMAcKASRAbwnbtatnbEND OF TEXTtnbyxpjvqtnbvvtnbtaKASHMIRIzwcrecmezvMADDAmberembczrzvrembcmezvrenb
czwzvrembcmecBEHcTEH MARBUTAcTEHcTHEHcshcrccsncDALcTHALcREHcZAINcwmcwucSADcDADcTAHcZAHcAINcGHAIN
cKEHEHzvzcplmbeylplnbcFARSIzwzvsdVfzcplmbfylplmbbTATWEELbtaFEHcQAFcKAFcsqctrcuicHEHczrcmetmczw
bFATHATANbDAMMATANbKASRATANbFATHAbDAMMAbKASRAbSHADDAbSUKUNbMADDAHmbbrembcnbbSUBSCRIPTmebsdDAMMA
btnuiGHUNNAbZWARAKAYbzqxaxgVmbdsdxgVmbdpjnbbwaDAMMAbFATHAzvzcplbWAVYrenbamqpgzzcuvczccylcqncqicxecwp
cptcufampPERCENTxabDECIMALwobTHOUSANDSwobqivkxpbtapkBEHdQAFcxvmecmeWASLAdzvWAVYrembgnbcroreemeezr
cUzvrembcrorezwcTTEHcTTEHEHcBEEHcTEHzvweeylplmbprcPEHcTEHEHcBEHEHcrczvrembezcplzlmbcNYEHcDYEH
crczvylplmbcTCHEHcTCHEHEHcDDALcDALzvweepjnbgmkxgTAHcDAHALcDDAHALcDULcDALzvylplmbpreqnplmbcRREH
cREHzvxgVeweepjnbexgVnbepjnbmkpjmbezcplmbcJEHcREHzvqnplmbcwmzvpjnbmkpjmbeylplnbhmkylplmbcSADzvzcplnb
eylplmbcTAHzvylplmbcAINzvylplmbcpkFEHcFEHzvpjMOVEDnbfnbcVEHcFEHzvylplnbcPEHEHcQAFzvpjmbeylplmbcKEHEH
cSWASH KAFcKAFzvweepjmbcNGcKAFzvylplnbcGAFdzvwecNGOEHcGAFzvzcplnbcGUEHcGAFzvylplmbcsqzvxgVepjmb
eylplmbgnbcuizvpjnbdGHUNNAcRNOONcuizvweeylplmbcHEH DOACHASHMEEcTCHEHzvpjmbcHEHzvzwmbdGOALezvremb
cTEH MARBUTA GOALczrzvwecKIRGHIZ OEcOEcUcYUcKIRGHIZ YUczrzvzcplmbcVEcFARSIzwczwzvyaexgVczrzvpjmbcE
czwzvylplnbdBARREEezvrembbqqxqbtaAEbxgrotbSADzvsqzvmetmeQAFzvsqzvmetmdtrryqkdsqmedshdylpldwm
bEND OF AYAHbSTART OF RUB EL HIZBbxgroROUNDEDzzdUPRIGHT RECTANGULARzzdpkHEAD OFsndtrsgqkcthwm
croMADDAczrczwcrozwduibPLACE OF SAJDAHbEMPTYnsthxqdroxqbROUNDEDroxqzvFILLEDnsbxgthtrbtaDALzvsdV
cREHzvsdVaEXTENDEDmqpgzzduvdzcdyldqndqidxedwpdptdufamptawuzvpjnbcDADzvpjnbcGHAINzvpjnb
bxaSINDHI AMPERSANDdPOSTPOSITION MENbtaHEHzvsdVaSYRIAC END OF PARAGRAPHbSUPRALINEARqqxq
bSUBLINEARqqxqbSUPRALINEARocbSUBLINEARocbrsocbocSKEWEDsudwbbSUPRALINEARocSKEWEDsu
bSUBLINEARocSKEWEDwbbCONTRACTIONbHARKLEAN OBELUScMETOBELUScASTERISCUS"),
  (0x70F, "aSYRIACmatnbtaALAPHcxvALAPHcBETHcGAMALdGARSHUNIcDALATHcpkDALATH RISHcHEczrcZAINcHETHcTETH
dGARSHUNIcYUDHdHEcKAPHcLAMADHcMIMcuocSEMKATHcqgSEMKATHcEcPEcwaPEcSADHEcQAPHcRISHcwwcTAW
cPERSIAN BHETHdGHAMALdDHALATHbPTHAHAmbcnbcpmbZQAPHAmbcnbcpmbRBASAmbcnbbpmZLAMArsdANGULARbHBASAmbcnb
bHBASA-ESASApmbESASAmbcnbbRWAHAbFEMININEpjbQUSHSHAYAbRUKKAKHAbzczlplmbenbbylplmbdnbbuqtdmbdnbbMUSIC
bBARREKH"),
  (0x74D, "aSYRIACtaSOGDIAN ZHAINdKHAPHdFEamptaBEHzvylplHORIZONTALLYnbepjnbmkylplmbeylplvlzinb
jmkzcplmbezcplnbmkpjmbesdxgVnbexgVcrczvzcplmbeylplvlzinbcDALzvzcplVERTICALLYnbmkxgTAHesdxgVnb
cREHzvxscwmzvqnplmbcAINzvzcplmbeylplvlprmbezcplVERTICALLYmbcFEHzvzcplnbeylplvlzinbcKEHEHzvpjmb
eylplmbgvlzinbctrzvpjmbfnbcuizvzcplnbexgTAHfVcsqzvmzcREHzvzcplVERTICALLYmberembcwmzvzcplVERTICALLYmb
crczvxgmptaTAHnbimkzcplcwmzvxgmptaTAHmkzcplcREHzvxgmptaTAHmkzcplcrczvxgmptaTAHmb
cmezvEXTENDEDmqpgzcmbhylmbcFARSIzwzvEXTENDEDmqpgzcmbiylmbiqnnbczrzvEXTENDEDmqpgzcmbhylmb
czwBARREEzvEXTENDEDmqpgzcmbiylmbcrczvEXTENDEDmqpgqnnbcwmzvEXTENDEDmqpgqnmbesdVcKAFzvzcplmb
aTHAANAtaHAAcSHAVIYANIcNOONUcRAAcBAAcLHAVIYANIcKAAFUcALIFUcVAAVUcMEEMUcFAAFUcDHAALUcTHAAcLAAMUcGAAFU
cGNAVIYANIcSEENUcDAVIYANIcZAVIYANIcTAVIYANIcYAAcPAVIYANIcJAVIYANIcCHAVIYANIcTTAAcHHAAcKHAAcTHAALU
cZAAcSHEENUcSAADHUcDAADHUcTOcZOcAINUcGHAINUcQAAFUcWAAVUbABAFILIbAABAAFILIbIBIFILIbEEBEEFILIbUBUFILI
bOOBOOFILIbEBEFILIbEYBEYFILIbOBOFILIbOABOAFILIbSUKUNbtaNAA"),
  (0x7C0, "aNKOpgzzcuvczccylcqncqicxecwpcptcufbtaAcEEcIcEcUcOOcOcDAGBASINNAcNcBAcPAcTAcJAcntcDAcRA
cRRAcSAcGBAcFAcKAcLAcNA WOLOSOcMAcupcNAcHAcWAcYAcupWOLOSOcJONA JAdntdRAbodwxroyqdthyqdRISINGyq
ctgDESCENDINGyqdroyqdthyqdRISINGyqcNASALIZATIONtncpnpjmbbroyqmobthyqmobxyOO DENNENcGBAKURUNENboe
bqdtnbLAJANYALAN"),
  (0x7FD, "aNKO DANTAYALANbDOROMExabTAMANxaaSAMARITANtaALAFcBITcGAMANcDALATcIYcBAAcZENcITcTITcYUT
cKAAFcLABATcMIMcuocSINGAATcINcFIcTSAADIYcQUFcRISHcSHANcTAAFbtnINcIN-ALAFcOCCLUSIONcor
btutaEPENTHETIC YUTbtnEPENTHETIC YUTbzqxatgEdEdOVERLONG AAdtgAAdAAdOVERLONG AdtgAdAbtutawxAbzqxawxA
dtgUdUbtutaIbzqxatgIdIdOdSUKUNbtnNEQUDAA"),
  (0x830, "aSAMARITANvqNEQUDAAcAFSAAQcANGEDcBAUcATMAAUcSHIYYAALAAbmatnbvqMELODIC QITSAcZIQAAcQITSA
cZAEFcTURUcARKAANUcSOF MASHFAATcANNAAU"),
  (0x840, "aMANDAICtaHALQAcABcAGcADcAHcUSHENNAcAZcITcATTcAKSAcAKcALcAMcANcAScINcAPcASZcAQcARcmwcAT
cDUSHENNAcKADcAINbAFFRICATIONtnbVOCALIZATIONtnbGEMINATIONtn"),
  (0x85E, "aMANDAICvq"),
  (0x860, "aSYRIACtaMALAYALAMuedJAdupdyyduhdNNNAdnfdRAdLLAdLLLAdxo"),
  (0x870, "amptamezvATTACHED FATHAfyswbFATHAewbtsxsesutsxseATTACHED KASRAfnjwbKASRAfROUNDpjmb
fwbROUNDpjfsuROUNDpjfROUNDpjnbepjmbeATTACHEDyswbFATHAmkpjmbewbtsxsmkpjmbeATTACHEDnjwbKASRAmkpjmb
fyswbFATHAmksuweewbtsxsmksuweeATTACHEDnjwbKASRAmksuwefwbrefsurebTATWEELzvOVERSTRUCKreezrdzcplnb
btaTHINzwbBASELINE ROUNDpjbvxROUNDpjbtauizvsdxgVcrczvsdxgVnbcTAHzvpjnbeylplnb
cKEHEHzvzcplVERTICALLYnbbzlya"),
  (0x890, "ampPOUNDtnmbbPIASTREtnmb"),
  (0x898, "ampxgroWORD AL-JUZcthWORD ISHMAAMeIMAALAeTASHEELbMADDA WAAJIBbxvmeMOKHASSASbDOUBLED MADDA
brdMADDAvaMADDAbtaBEHzvxgVnberembcshzvzcplmbcTAHzvzcplmbcFEHzvpjnbmkylplmbcQAFzvpjnbcsqzvpnmz
ctrzvylplmbczwzvzcplnbmkrembipjmbcREHzvLOOPczrzvpjWITHINcROHINGYAzwcthmecDALzvylplnbcSADzvylplnb
cGAFzvsdxscxrzrcZAINzvsdVmbcAINzvylplnbcKAFzvpjnbcQAFzvpjnbmkNOplmbcBEHzvxgtrmbcPEHzvxgtrmb
cTEHzvxgTEHmbcREHzvxguimbczwzvzcplnbmkxguimbcAFRICAN FEHdQAFduicPEHzvxgVcTEHzvxgVcTTEHzvxgV
cTCHEHzvxgVcKEHEHzvxgVcGHAINzvylplmbcAFRICAN QAFzvylplmbcshzvylplmbgnbcsqzvxgmptaTAHmbcGRAF
bxgFARSIzwcroFARSIzwdzwBARREEzvzcplnbdWORD SAHdZAHbssROUNDpjmbenbbSUKUNnbbssnwnbcROUNDpjrznwnb
bxgthzrcroWORD AR-RUBdSADdAINdQAFduizvKASRActhuizvKASRAcroWORD ATH-THALATHAeAS-SAJDAeAN-NISFeSAKTA
eQIFeWAQFAdFOOTNOTE MARKERdxaSAFHAbDISPUTED END OF AYAHbzaDAMMAnbbooFATHAcDAMMAcKASRAcFATHATAN
cDAMMATANcKASRATANbyquvpjmbczcplmbcLOOPmbcuvpjnbczcplnbcLOOPnbbuwFATHATANcDAMMATANcKASRATANbxgrozr
bFATHAzvwedpjmbbKASRAzvpjnbbsumumbbwbmumbbsumunbbwbmunbbpnwbmumbfzvpjbwbmumbzvpjbDAMMAzvpj
btnSIDEWAYSuiGHUNNAaDEVANAGARIxasdnocnocmnczobtawxAcAcAAcIcIIcUcUUczpRdLcnnEcwxEcEcAIcnnOcwxOcOcAU
cKAcsmcGAcqtcuecCAcntcJAcsicupcyycyzcovcowcuhcTAcygcDAcpacNAcNNNAcPAcvicBAcnfcMAcYAcRAcRRAcLAcLLA
cLLLAcVAcwrcxocSAcHAbzqxaOEdOOEbxaumcmybzqxaAAdIdIIdUdUUdzpReRRdnnEdwxEdEdAIdnnOdwxOdOdAUbxazn
bzqxaPRISHTHAMATRA EdAWbOMbSTRESSxaUDATTAdANUDATTAbqwmcbmdmcbzqxanntgEdUEdUUEbtaQAcKHHAcGHHAcZA
cDDDHAcRHAcFAcYYAczpRRdLLbzqxazpLeLLbosbpnosbpgzzcuvczccylcqncqicxecwpcptcufbmaxabxaroSPACINGpj
btannAcOEcOOEcAWcUEcUUEcMARWARIovcZHAcrnYAcGGAcJJAcquxqcDDDAcBBAancANJIbxanocmnczo"),
  (0x985, "anctaAcAAcIcIIcUcUUczpRdL"),
  (0x98F, "anctaEcAI"),
  (0x993, "anctaOcAUcKAcsmcGAcqtcuecCAcntcJAcsicupcyycyzcovcowcuhcTAcygcDAcpacNA"),
  (0x9AA, "anctaPAcvicBAcnfcMAcYAcRA"),
  (0x9B2, "anctaLA"),
  (0x9B6, "anctawrcxocSAcHA"),
  (0x9BC, "ancxaumcmybzqxaAAdIdIIdUdUUdzpReRR"),
  (0x9C7, "anczqxaEdAI"),
  (0x9CB, "anczqxaOdAUbxaznbtaKHANDA TA"),
  (0x9D7, "ancAUsytn"),
  (0x9DC, "anctaRRAcRHA"),
  (0x9DF, "anctaYYAczpRRdLLbzqxazpLeLL"),
  (0x9E6, "ancpgzzcuvczccylcqncqicxecwpcptcufbtaRAzvtspcetipcbRUPEEtncxabCURRENCY NUMERATORuvdzcdyl
dqnduvLESS THANyhDENOMINATORcDENOMINATOR SIXTEENbISSHARbGANDAtnbtaVEDICmnbmaxabSANDHItn"),
  (0xA01, "arbxaADAK BINDIcBINDIczo"),
  (0xA05, "arbtaAcAAcIcIIcUcUU"),
  (0xA0F, "arbtaEEcAI"),
  (0xA13, "arbtaOOcAUcKAcsmcGAcqtcuecCAcntcJAcsicupcyycyzcovcowcuhcTAcygcDAcpacNA"),
  (0xA2A, "arbtaPAcvicBAcnfcMAcYAcRA"),
  (0xA32, "arbtaLAcLLA"),
  (0xA35, "arbtaVAcwr"),
  (0xA38, "arbtaSAcHA"),
  (0xA3C, "arbxaum"),
  (0xA3E, "arbzqxaAAdIdIIdUdUU"),
  (0xA47, "arbzqxaEEdAI"),
  (0xA4B, "arbzqxaOOdAUbxazn"),
  (0xA51, "arbxaUDAAT"),
  (0xA59, "arbtaKHHAcGHHAcZAcRRA"),
  (0xA5E, "arbtaFA"),
  (0xA66, "arbpgzzcuvczccylcqncqicxecwpcptcufbTIPPIbADDAKbIRIbURAbEK ONKARbxaYAKASHbmaxa"),
  (0xA81, "aqzxanocmnczo"),
  (0xA85, "aqztaAcAAcIcIIcUcUUczpRdLbzqnnE"),
  (0xA8F, "aqztaEcAIbzqnnO"),
  (0xA93, "aqztaOcAUcKAcsmcGAcqtcuecCAcntcJAcsicupcyycyzcovcowcuhcTAcygcDAcpacNA"),
  (0xAAA, "aqztaPAcvicBAcnfcMAcYAcRA"),
  (0xAB2, "aqztaLAcLLA"),
  (0xAB5, "aqztaVAcwrcxocSAcHA"),
  (0xABC, "aqzxaumcmybzqxaAAdIdIIdUdUUdzpReRRdnnE"),
  (0xAC7, "aqzzqxaEdAIdnnO"),
  (0xACB, "aqzzqxaOdAUbxazn"),
  (0xAD0, "aqzOM"),
  (0xAE0, "aqztazpRRdLLbzqxazpLeLL"),
  (0xAE6, "aqzpgzzcuvczccylcqncqicxecwpcptcufbmaxabRUPEExa"),
  (0xAF9, "aqztaZHAbxaSUKUNcSHADDAcMADDAHcTHREE-DOTummbcnwummbcTWO-CIRCLEummb"),
  (0xB01, "aORIYAxanocmnczo"),
  (0xB05, "aORIYAtaAcAAcIcIIcUcUUczpRdL"),
  (0xB0F, "aORIYAtaEcAI"),
  (0xB13, "aORIYAtaOcAUcKAcsmcGAcqtcuecCAcntcJAcsicupcyycyzcovcowcuhcTAcygcDAcpacNA"),
  (0xB2A, "aORIYAtaPAcvicBAcnfcMAcYAcRA"),
  (0xB32, "aORIYAtaLAcLLA"),
  (0xB35, "aORIYAtaVAcwrcxocSAcHA"),
  (0xB3C, "aORIYAxaumcmybzqxaAAdIdIIdUdUUdzpReRR"),
  (0xB47, "aORIYAzqxaEdAI"),
  (0xB4B, "aORIYAzqxaOdAUbxazn"),
  (0xB55, "aORIYAxaOVERLINEbAIsytnbAUsytn"),
  (0xB5C, "aORIYAtaRRAcRHA"),
  (0xB5F, "aORIYAtaYYAczpRRdLLbzqxazpLeLL"),
  (0xB66, "aORIYApgzzcuvczccylcqncqicxecwpcptcufbISSHARbtaWAbqouvvtdrdcylvucuvSIXTEENTHdpu
cylSIXTEENTHS"),
  (0xB82, "aybxamnczo"),
  (0xB85, "aybtaAcAAcIcIIcUcUU"),
  (0xB8E, "aybtaEcEEcAI"),
  (0xB92, "aybtaOcOOcAUcKA"),
  (0xB99, "aybtauecCA"),
  (0xB9C, "aybtaJA"),
  (0xB9E, "aybtaupcyy"),
  (0xBA3, "aybtauhcTA"),
  (0xBA8, "aybtaNAcNNNAcPA"),
  (0xBAE, "aybtaMAcYAcRAcRRAcLAcLLAcLLLAcVAcwrcxocSAcHA"),
  (0xBBE, "aybzqxaAAdIdIIdUdUU"),
  (0xBC6, "aybzqxaEdEEdAI"),
  (0xBCA, "aybzqxaOdOOdAUbxazn"),
  (0xBD0, "aybOM"),
  (0xBD7, "aybAUsytn"),
  (0xBE6, "aybpgzzcuvczccylcqncqicxecwpcptcufbunyecuvrudykbDAYxabMONTHxabYEARxabDEBITxabCREDITxa
bASmbxabRUPEExabunxa"),
  (0xC00, "aTELUGUxaodnombcnocmnczocodmnmbbtaAcAAcIcIIcUcUUczpRdL"),
  (0xC0E, "aTELUGUtaEcEEcAI"),
  (0xC12, "aTELUGUtaOcOOcAUcKAcsmcGAcqtcuecCAcntcJAcsicupcyycyzcovcowcuhcTAcygcDAcpacNA"),
  (0xC2A, "aTELUGUtaPAcvicBAcnfcMAcYAcRAcRRAcLAcLLAcLLLAcVAcwrcxocSAcHA"),
  (0xC3C, "aTELUGUxaumcmybzqxaAAdIdIIdUdUUdzpReRR"),
  (0xC46, "aTELUGUzqxaEdEEdAI"),
  (0xC4A, "aTELUGUzqxaOdOOdAUbxazn"),
  (0xC55, "aTELUGUsytnbAIsytn"),
  (0xC58, "aTELUGUtaTSAcDZAcRRRA"),
  (0xC5D, "aTELUGUtaNAKAARA POLLU"),
  (0xC60, "aTELUGUtazpRRdLLbzqxazpLeLL"),
  (0xC66, "aTELUGUpgzzcuvczccylcqncqicxecwpcptcuf"),
  (0xC77, "aTELUGUxaSIDDHAMbqopgzzqjODD POWERS OFqnduvqjODD POWERS OFqndzcqjODD POWERS OFqn
dylqjODD POWERS OFqnduvqjEVEN POWERS OFqndzcqjEVEN POWERS OFqndylqjEVEN POWERS OFqnbxaTUUMU
asjxaSPACINGnocnocmnczocSIDDHAMbtaAcAAcIcIIcUcUUczpRdL"),
  (0xC8E, "asjtaEcEEcAI"),
  (0xC92, "asjtaOcOOcAUcKAcsmcGAcqtcuecCAcntcJAcsicupcyycyzcovcowcuhcTAcygcDAcpacNA"),
  (0xCAA, "asjtaPAcvicBAcnfcMAcYAcRAcRRAcLAcLLA"),
  (0xCB5, "asjtaVAcwrcxocSAcHA"),
  (0xCBC, "asjxaumcmybzqxaAAdIdIIdUdUUdzpReRR"),
  (0xCC6, "asjzqxaEdEEdAI"),
  (0xCCA, "asjzqxaOdOOdAUbxazn"),
  (0xCD5, "asjsytnbAIsytn"),
  (0xCDD, "asjtaNAKAARA POLLUcFA"),
  (0xCE0, "asjtazpRRdLLbzqxazpLeLL"),
  (0xCE6, "asjpgzzcuvczccylcqncqicxecwpcptcuf"),
  (0xCF1, "asjxaJIHVAMULIYAcUPADHMANIYA"),
  (0xD00, "aMALAYALAMxaodmnmbcnocmnczobtaVEDICmncAcAAcIcIIcUcUUczpRdL"),
  (0xD0E, "aMALAYALAMtaEcEEcAI"),
  (0xD12, "aMALAYALAMtaOcOOcAUcKAcsmcGAcqtcuecCAcntcJAcsicupcyycyzcovcowcuhcTAcygcDAcpacNAcNNNAcPA
cvicBAcnfcMAcYAcRAcRRAcLAcLLAcLLLAcVAcwrcxocSAcHAcTTTAbxazlmzzncCIRCULARzncmybzqxaAAdIdIIdUdUUdzpR
eRR"),
  (0xD46, "aMALAYALAMzqxaEdEEdAI"),
  (0xD4A, "aMALAYALAMzqxaOdOOdAUbxaznbtapjREPHbxaPARA"),
  (0xD54, "aMALAYALAMtaCHILLU MdYdLLLbAUsytnbqouvONE-HUNDRED-AND-SIXTIETHdFORTIETHcylEIGHTIETHS
cuvTWENTIETHdTENTHcylTWENTIETHScuvFIFTHbtamrIIczpRRdLLbzqxazpLeLL"),
  (0xD66, "aMALAYALAMpgzzcuvczccylcqncqicxecwpcptcufbunyecuvrudykbqouvvtdrdcylvucuvSIXTEENTHdpu
cylSIXTEENTHSbDATEtnbtaCHILLU NNdNdRRdLdLLdK"),
  (0xD81, "axdxanocANUSVARAYAcVISARGAYA"),
  (0xD85, "axdtaAYANNAcAAYANNAcAEYANNAcAEEYANNAcIYANNAcIIYANNAcUYANNAcUUYANNAcIRUYANNAcIRUUYANNA
cILUYANNAcILUUYANNAcEYANNAcEEYANNAcAIYANNAcOYANNAcOOYANNAcAUYANNA"),
  (0xD9A, "axdtamgKAYANNActlKAYANNAcmgGAYANNActlGAYANNAcKANTAJA NAASIKYAYAcSANYAKA GAYANNAcmgCAYANNA
ctlCAYANNAcmgJAYANNActlJAYANNAcTAALUJA NAASIKYAYAdSANYOOGA NAAKSIKYAYAcSANYAKA JAYANNAcmgTTAYANNA
ctlTTAYANNAcmgDDAYANNActlDDAYANNAcMUURDHAJA NAYANNAcSANYAKA DDAYANNAcmgTAYANNActlTAYANNAcmgDAYANNA
ctlDAYANNAcDANTAJA NAYANNA"),
  (0xDB3, "axdtaSANYAKA DAYANNAcmgPAYANNActlPAYANNAcmgBAYANNActlBAYANNAcMAYANNAcAMBA BAYANNAcYAYANNA
cRAYANNA"),
  (0xDBD, "axdtaDANTAJA LAYANNA"),
  (0xDC0, "axdtaVAYANNAcTAALUJA SAYANNAcMUURDHAJA SAYANNAcDANTAJA SAYANNAcHAYANNAcMUURDHAJA LAYANNA
cFAYANNA"),
  (0xDCA, "axdxaAL-LAKUNA"),
  (0xDCF, "axdzqxaAELA-PILLAdKETTI AEDA-PILLAdDIGA AEDA-PILLAdKETTI IS-PILLAdDIGA IS-PILLA
dKETTI PAA-PILLA"),
  (0xDD6, "axdzqxaDIGA PAA-PILLA"),
  (0xDD8, "axdzqxaGAETTA-PILLAdKOMBUVAdDIGA KOMBUVAdKOMBU DEKAdKOMBUVA HAA AELA-PILLA
fDIGA AELA-PILLAfGAYANUKITTAdGAYANUKITTA"),
  (0xDE6, "axdLITHpgzzduvdzcdyldqndqidxedwpdptduf"),
  (0xDF2, "axdzqxaDIGA GAETTA-PILLAeGAYANUKITTAbvqKUNDDALIYA"),
  (0xE01, "aTHAI CHARACTER KO KAIcKHO KHAIdKHUATdKHWAIdKHONdRAKHANGcNGO NGUcCHO CHANdCHINGdCHANG
cSO SOcCHO CHOEcYO YINGcDO CHADAcTO PATAKcTHO THANdNANGMONTHOdPHUTHAOcNO NENcDO DEKcTO TAOcTHO THUNG
dTHAHANdTHONGcNO NUcBO BAIMAIcPO PLAcPHO PHUNGcFO FAcPHO PHANcFO FANcPHO SAMPHAOcMO MAcYO YAKcRO RUA
cRUcLO LINGcLUcWO WAENcSO SALAdRUSIdSUAcHO HIPcLO CHULAcO ANGcHO NOKHUKcPAIYANNOIcSARA A
cMAI HAN-AKATcSARA AAdAMdIdIIdUEdUEEdUdUUcPHINTHU"),
  (0xE3F, "aTHAI CURRENCYxyBAHTbCHARACTER SARA EdAEdOdAI MAIMUANeMAIMALAIcLAKKHANGYAOcMAIYAMOK
cMAITAIKHUcMAI EKdTHOdTRIdCHATTAWAcTHANTHAKHATcNIKHAHITcYAMAKKANcFONGMANbpgzzcuvczccylcqncqicxecwp
cptcufbCHARACTER ANGKHANKHUcKHOMUT"),
  (0xE81, "aLAOtaKOcKHO SUNG"),
  (0xE84, "aLAOtaKHO TAM"),
  (0xE86, "aLAOtaPALIqtcNGOcCOcPALIntcSO TAM"),
  (0xE8C, "aLAOtaPALIsicNYOcPALIupdyydyzdovdowduhcDOcTOcTHO SUNGdTAMcPALIpacNOcBOcPOcPHO SUNGcFO TAM
cPHO TAMcFO SUNGcPALInfcMOcYOcLO LING"),
  (0xEA5, "aLAOtaLO LOOT"),
  (0xEA7, "aLAOtaWOcSANSKRITwrdxocSO SUNGcHO SUNGcPALI LLAcOcHO TAMbELLIPSISbzqxaAdMAI KANdAAdAMdI
dIIdYdYYdUdUUbxaPALIznbzqxaMAI KONbSEMIVOWELxaLOdNYO"),
  (0xEC0, "aLAOzqxaEdEIdOdAYdAI"),
  (0xEC6, "aLAO KO LA"),
  (0xEC8, "aLAOyqMAI EKdTHOdTIdCATAWAbCANCELLATIONtnbNIGGAHITA"),
  (0xED0, "aLAOpgzzcuvczccylcqncqicxecwpcptcuf"),
  (0xEDC, "aLAO HO NOcMObtaKHMU GOdNYO"),
  (0xF00, "aTIBETANxxOMbtnGTER YIG MGO TRUNCATED Af-UM RNAM BCAD MAgGTER TSHEG MAcryYIG MGO MDUN MA
cCLOSING YIG MGO SGAB MAcCARET YIG MGO PHUR SHAD MAcYIG MGO TSHEG SHAD MAcSBRUL SHADcBSKUR YIG MGO
cBKA- SHOG YIG MGOcINTERSYLLABIC TSHEGcDELIMITER TSHEG BSTARcSHADcNYIS SHADcTSHEG SHAD
cNYIS TSHEG SHADcRIN CHEN SPUNGS SHADcRGYA GRAM SHADcCARET -DZUD RTAGS MEtgCANcGTER TSHEG
bLOGOTYPExaCHAD RTAGSdLHAG RTAGSbASTROLOGICALxaSGRA GCAN -CHAR RTAGSd-KHYUD PAdSDONG TSHUGS
bxaRDEL DKAR GCIGeGNYISeGSUMdNAG GCIGeGNYISdDKAR RDEL NAGbpgzzcuvczccylcqncqicxecwpcptcufcrduvdzcdyl
dqndqidxedwpdptdufdzzbtnBSDUS RTAGScNGAS BZUNG NYI ZLAcCARET -DZUD RTAGS BZHI MIG CAN
cNGAS BZUNG SGOR RTAGScCHE MGOcTSA -PHRUcGUG RTAGS GYONeGYAScANG KHANG GYONeGYASbxaYAR TSHES
cMAR TSHESbtaKAcsmcGAcqtcuecCAcntcJA"),
  (0xF49, "aTIBETANtaupcyycyzcovcowcuhcTAcygcDAcpacNAcPAcvicBAcnfcMAcTSAcTSHAcDZAcDZHAcWAcZHAcZAc-A
cYAcRAcLAcwrcxocSAcHAcAcKSSAcFIXED-FORM RAcKKAcRRA"),
  (0xF71, "aTIBETANzqxaAAdIdIIdUdUUdzpReRReLeLLdEdEEdOdOObxaRJES SUueROcRNAM BCADbzqxawaIeII
bxaNYI ZLA NAA DAcSNA LDANbtnHALANTAcPALUTAbxaLCI RTAGScYANG RTAGScLCE TSA CANcMCHU CAN
cGRU CAN RGYINGSdMED RGYINGScsdMCHU CANbSUBJOINEDxaLCE TSA CANdMCHU CANdsdMCHU CANctaKAdsmdGAdqtdue
dCAdntdJA"),
  (0xF99, "aTIBETAN SUBJOINEDtaupdyydyzdovdowduhdTAdygdDAdpadNAdPAdvidBAdnfdMAdTSAdTSHAdDZAdDZHAdWA
dZHAdZAd-AdYAdRAdLAdwrdxodSAdHAdAdKSSAdFIXED-FORM WAeYAeRA"),
  (0xFBE, "aTIBETAN KU RUsmeBZHI MIG CANbCANTILLATIONxarnBEATdtcBEATdCANG TE-UdSBUB -CHALbxyDRIL BU
cRDO RJEcPADMA GDANcRDO RJE RGYA GRAMcPHUR PAcNOR BUeNYIS -KHYILeGSUM -KHYILeBZHI -KHYIL"),
  (0xFCE, "aTIBETANxaRDEL NAG RDEL DKAReGSUMbtnBSKA- SHOG GI MGO RGYANcMNYAM YIG GI MGO RGYAN
cNYIS TSHEGcryBRDA RNYING YIG MGO MDUN MAcCLOSING BRDA RNYING YIG MGO SGAB MAaRIGHT-FACING SVASTIxa
aLEFT-FACING SVASTIxaaRIGHT-FACING SVASTIxazvplaLEFT-FACING SVASTIxazvpl
aTIBETANtnLEADING MCHAN RTAGScTRAILING MCHAN RTAGS"),
  (0x1000, "aMYANMARtaKAcsmcGAcqtcuecCAcntcJAcsicupcNNYAcyycyzcovcowcuhcTAcygcDAcpacNAcPAcvicBAcnf
cMAcYAcRAcLAcWAcSAcHAcLLAcAcSHAN AcIcIIcUcUUcEcMON EcOcAUbzqxaTALL AAdAAdIdIIdUdUUdEdAIdMON IIeOdEmb
bxamncpjnbczoczncASATbogxatpYAeRAeWAeHAbtaGREAT SAbpgzzcuvczccylcqncqicxecwpcptcufbxatewlcwl
bxyLOCATIVEcCOMPLETEDcAFOREMENTIONEDcGENITIVEbtawrcxoczpRdRRdLdLLbzqxazpReRReLeLLbtaMONuedsidBBAdBBE
bogxaMONtpNAfMAfLAbtaSGAW KARENwrbzqxaSGAW KAREN EUbyqtnSGAW KAREN HATHIfKE PHO
btaWESTERN PWO KARENygfPWAbzqxaWESTERN PWO KAREN EUgUEbxaWESTERN PWO KAREN TONE-1fTONE-2fTONE-3
fTONE-4fTONE-5btaEASTERN PWO KARENuhfYWAfGHWAbzqxaGEBA KAREN IdKAYAH OEeUeEEbtaSHAN KAdsmdGAdCAdZA
dupdDAdNAdvidFAdBAdygdHAbogxaSHANtpWAbzqxaSHAN AAeEfmbeqgYbxaSHAN TONE-2dTONE-3dTONE-5dTONE-6
dCOUNCIL TONE-2eTONE-3eEMPHATICyqbtaRUMAI PALAUNG FAbxaRUMAI PALAUNG TONE-5bSHANpgzzduvdzcdyldqndqi
dxedwpdptdufbxaKHAMTI TONE-1dTONE-3bzqxaAITON AeAIbxySHANuvdqdaqsnptaANdBANdGANdDONdENdVINdZENdTAN
dINdKANdLASdMANdNARdONdPARdZHARdRAEdSANdTARdUNdPHARdKHARdGHANdQARdwwdCHINdCANdJILdCILdCHARdXANdJHAN
dHAEdHEdHIEdWEdHARdHOE"),
  (0x10C7, "aqsnptaYN"),
  (0x10CD, "aqsnptaAEN"),
  (0x10D0, "aqstaANcBANcGANcDONcENcVINcZENcTANcINcKANcLAScMANcNARcONcPARcZHARcRAEcSANcTARcUNcPHAR
cKHARcGHANcQARcwwcCHINcCANcJILcCILcCHARcXANcJHANcHAEcHEcHIEcWEcHARcHOEcFIcYNcELIFIczaGANcAIN
bPARAGRAPHwoatutaqsNARaqstaAENcHARDxacLABIALxaaHANGUL CHOSEONG KIYEOKcSSANGKIYEOKcNIEUNcTIKEUT
cSSANGTIKEUTcRIEULcMIEUMcPIEUPcSSANGPIEUPcSIOScSSANGSIOScIEUNGcCIEUCcSSANGCIEUCcCHIEUCHcKHIEUKH
cTHIEUTHcPHIEUPHcHIEUHcNIEUN-KIYEOKcSSANGNIEUNcNIEUN-TIKEUTcNIEUN-PIEUPcTIKEUT-KIYEOKcRIEUL-NIEUN
cSSANGRIEULcRIEUL-HIEUHcKAPYEOUNRIEULcMIEUM-PIEUPcKAPYEOUNMIEUMcPIEUP-KIYEOKcPIEUP-NIEUN
cPIEUP-TIKEUTcPIEUP-SIOScPIEUP-SIOS-KIYEOKcPIEUP-SIOS-TIKEUTcPIEUP-SIOS-PIEUPcPIEUP-SSANGSIOS
cPIEUP-SIOS-CIEUCcPIEUP-CIEUCcPIEUP-CHIEUCHcPIEUP-THIEUTHcPIEUP-PHIEUPHcKAPYEOUNPIEUP
cKAPYEOUNSSANGPIEUPcSIOS-KIYEOKcSIOS-NIEUNcSIOS-TIKEUTcSIOS-RIEULcSIOS-MIEUMcSIOS-PIEUP
cSIOS-PIEUP-KIYEOKcSIOS-SSANGSIOScSIOS-IEUNGcSIOS-CIEUCcSIOS-CHIEUCHcSIOS-KHIEUKHcSIOS-THIEUTH
cSIOS-PHIEUPHcSIOS-HIEUHcCHITUEUMSIOScCHITUEUMSSANGSIOScCEONGCHIEUMSIOScCEONGCHIEUMSSANGSIOScPANSIOS
cIEUNG-KIYEOKcIEUNG-TIKEUTcIEUNG-MIEUMcIEUNG-PIEUPcIEUNG-SIOScIEUNG-PANSIOScSSANGIEUNGcIEUNG-CIEUC
cIEUNG-CHIEUCHcIEUNG-THIEUTHcIEUNG-PHIEUPHcYESIEUNGcCIEUC-IEUNGcCHITUEUMCIEUCcCHITUEUMSSANGCIEUC
cCEONGCHIEUMCIEUCcCEONGCHIEUMSSANGCIEUCcCHIEUCH-KHIEUKHcCHIEUCH-HIEUHcCHITUEUMCHIEUCH
cCEONGCHIEUMCHIEUCHcPHIEUPH-PIEUPcKAPYEOUNPHIEUPHcSSANGHIEUHcYEORINHIEUHcKIYEOK-TIKEUTcNIEUN-SIOS
cNIEUN-CIEUCcNIEUN-HIEUHcTIKEUT-RIEULcFILLERbJUNGSEONG FILLERcAcAEcYAcYAEcEOcEcYEOcYEcOcWAcWAEcOEcYO
cUcWEOcWEcWIcYUcEUcYIcIcA-OcA-UcYA-OcYA-YOcEO-OcEO-UcEO-EUcYEO-OcYEO-UcO-EOcO-EcO-YEcO-OcO-UcYO-YA
cYO-YAEcYO-YEOcYO-OcYO-IcU-AcU-AEcU-EO-EUcU-YEcU-UcYU-AcYU-EOcYU-EcYU-YEOcYU-YEcYU-UcYU-IcEU-UcEU-EU
cYI-UcI-AcI-YAcI-OcI-UcI-EUcI-ARAEAcARAEAcARAEA-EOcARAEA-UcARAEA-IcSSANGARAEAcA-EUcYA-UcYEO-YAcO-YA
cO-YAEbJONGSEONG KIYEOKcSSANGKIYEOKcKIYEOK-SIOScNIEUNcNIEUN-CIEUCcNIEUN-HIEUHcTIKEUTcRIEUL
cRIEUL-KIYEOKcRIEUL-MIEUMcRIEUL-PIEUPcRIEUL-SIOScRIEUL-THIEUTHcRIEUL-PHIEUPHcRIEUL-HIEUHcMIEUMcPIEUP
cPIEUP-SIOScSIOScSSANGSIOScIEUNGcCIEUCcCHIEUCHcKHIEUKHcTHIEUTHcPHIEUPHcHIEUHcKIYEOK-RIEUL
cKIYEOK-SIOS-KIYEOKcNIEUN-KIYEOKcNIEUN-TIKEUTcNIEUN-SIOScNIEUN-PANSIOScNIEUN-THIEUTHcTIKEUT-KIYEOK
cTIKEUT-RIEULcRIEUL-KIYEOK-SIOScRIEUL-NIEUNcRIEUL-TIKEUTcRIEUL-TIKEUT-HIEUHcSSANGRIEUL
cRIEUL-MIEUM-KIYEOKcRIEUL-MIEUM-SIOScRIEUL-PIEUP-SIOScRIEUL-PIEUP-HIEUHcRIEUL-KAPYEOUNPIEUP
cRIEUL-SSANGSIOScRIEUL-PANSIOScRIEUL-KHIEUKHcRIEUL-YEORINHIEUHcMIEUM-KIYEOKcMIEUM-RIEULcMIEUM-PIEUP
cMIEUM-SIOScMIEUM-SSANGSIOScMIEUM-PANSIOScMIEUM-CHIEUCHcMIEUM-HIEUHcKAPYEOUNMIEUMcPIEUP-RIEUL
cPIEUP-PHIEUPHcPIEUP-HIEUHcKAPYEOUNPIEUPcSIOS-KIYEOKcSIOS-TIKEUTcSIOS-RIEULcSIOS-PIEUPcPANSIOS
cIEUNG-KIYEOKcIEUNG-SSANGKIYEOKcSSANGIEUNGcIEUNG-KHIEUKHcYESIEUNGcYESIEUNG-SIOScYESIEUNG-PANSIOS
cPHIEUPH-PIEUPcKAPYEOUNPHIEUPHcHIEUH-NIEUNcHIEUH-RIEULcHIEUH-MIEUMcHIEUH-PIEUPcYEORINHIEUH
cKIYEOK-NIEUNcKIYEOK-PIEUPcKIYEOK-CHIEUCHcKIYEOK-KHIEUKHcKIYEOK-HIEUHcSSANGNIEUNaqcxxHAcHUcHIcHAA
cHEEcHEcHOcHOAcLAcLUcLIcLAAcLEEcLEcLOcLWAcHHAcHHUcHHIcHHAAcHHEEcHHEcHHOcHHWAcMAcMUcMIcMAAcMEEcMEcMO
cMWAcSZAcSZUcSZIcSZAAcSZEEcSZEcSZOcSZWAcRAcRUcRIcRAAcREEcREcROcRWAcSAcSUcSIcSAAcSEEcSEcSOcSWAcwrcSHU
cSHIcSHAAcSHEEcSHEcSHOcSHWAcQAcQUcQIcQAAcQEEcQEcQOcQOAcQWA"),
  (0x124A, "aqcxxQWIcQWAAcQWEEcQWE"),
  (0x1250, "aqcxxQHAcQHUcQHIcQHAAcQHEEcQHEcQHO"),
  (0x1258, "aqcxxQHWA"),
  (0x125A, "aqcxxQHWIcQHWAAcQHWEEcQHWE"),
  (0x1260, "aqcxxBAcBUcBIcBAAcBEEcBEcBOcBWAcVAcVUcVIcVAAcVEEcVEcVOcVWAcTAcTUcTIcTAAcTEEcTEcTOcTWAcCA
cCUcCIcCAAcCEEcCEcCOcCWAcXAcXUcXIcXAAcXEEcXEcXOcXOAcXWA"),
  (0x128A, "aqcxxXWIcXWAAcXWEEcXWE"),
  (0x1290, "aqcxxNAcNUcNIcNAAcNEEcNEcNOcNWAcupcNYUcNYIcNYAAcNYEEcNYEcNYOcNYWAcquAdUdIdAAdEEdEdOdWA
cKAcKUcKIcKAAcKEEcKEcKOcKOAcKWA"),
  (0x12B2, "aqcxxKWIcKWAAcKWEEcKWE"),
  (0x12B8, "aqcxxKXAcKXUcKXIcKXAAcKXEEcKXEcKXO"),
  (0x12C0, "aqcxxKXWA"),
  (0x12C2, "aqcxxKXWIcKXWAAcKXWEEcKXWE"),
  (0x12C8, "aqcxxWAcWUcWIcWAAcWEEcWEcWOcWOAcPHARYNGEAL AdUdIdAAdEEdEdO"),
  (0x12D8, "aqcxxZAcZUcZIcZAAcZEEcZEcZOcZWAcZHAcZHUcZHIcZHAAcZHEEcZHEcZHOcZHWAcYAcYUcYIcYAAcYEEcYE
cYOcYOAcDAcDUcDIcDAAcDEEcDEcDOcDWAcovcDDUcDDIcDDAAcDDEEcDDEcDDOcDDWAcJAcJUcJIcJAAcJEEcJEcJOcJWAcGA
cGUcGIcGAAcGEEcGEcGOcGOAcGWA"),
  (0x1312, "aqcxxGWIcGWAAcGWEEcGWE"),
  (0x1318, "aqcxxGGAcGGUcGGIcGGAAcGGEEcGGEcGGOcGGWAAcygcTHUcTHIcTHAAcTHEEcyhcTHOcTHWAcntcCHUcCHI
cCHAAcCHEEcCHEcCHOcCHWAcvicPHUcPHIcPHAAcPHEEcPHEcPHOcPHWAcTSAcTSUcTSIcTSAAcTSEEcTSEcTSOcTSWAcTZAcTZU
cTZIcTZAAcTZEEcTZEcTZOcTZOAcFAcFUcFIcFAAcFEEcFEcFOcFWAcPAcPUcPIcPAAcPEEcPEcPOcPWAcRYAcMYAcFYA"),
  (0x135D, "aqcodGEMINATIONmkzqsytnczqsytncGEMINATIONtnbwltnbWORDSPACEbqqxqboebwnbocbPREFACEocbvvtn
bPARAGRAPHwobpguvczccylcqncqicxecwpcptcufbunyeczbcyjcqlcqfcSIXTYcwqcpwcugcrucyeyk"),
  (0x1380, "aqcxxSEBATBEIT MWAcMWIcMWEEcMWEcSEBATBEIT BWAcBWIcBWEEcBWEcSEBATBEIT FWAcFWIcFWEEcFWE
cSEBATBEIT PWAcPWIcPWEEcPWEbTONALtnYIZETdDERETdRIKRIKdwxRIKRIKdDIFATdKENATdCHIRETdHIDETdDERET-HIDET
dKURT"),
  (0x13A0, "aCHEROKEEtaAcEcIcOcUcVcGAcKAcGEcGIcGOcGUcGVcHAcHEcHIcHOcHUcHVcLAcLEcLIcLOcLUcLVcMAcMEcMI
cMOcMUcNAcHNAcNAHcNEcNIcNOcNUcNVcQUAcQUEcQUIcQUOcQUUcQUVcSAcScSEcSIcSOcSUcSVcDAcTAcDEcTEcDIcTIcDOcDU
cDVcDLAcTLAcTLEcTLIcTLOcTLUcTLVcTSAcTSEcTSIcTSOcTSUcTSVcWAcWEcWIcWOcWUcWVcYAcYEcYIcYOcYUcYVcMV"),
  (0x13F8, "aCHEROKEExgtaYEdYIdYOdYUdYVdMV"),
  (0x1400, "aCANADIAN SYLLABICS HYPHENcEcAAIcIcIIcOcOOcY-CREE OOcCARRIER EEdIcAcAAcWEcztWEcWIcztWI
cWIIcztWIIcWOcztWOcWOOcztWOOcNASKAPI WOOcWAcztWAcWAAcztWAAcNASKAPI WAAcAIcY-CREE Wcquxqcqgmddqw
dnjrdwedysrdwedwbrdwedwedpnmdewxzlSTROKESdtspjdwxrsxsdvjdppxzcENcINcONcANcPEcPAAIcPIcPIIcPOcPOO
cY-CREE POOcCARRIER HEEdHIcPAcPAAcPWEcztPWEcPWIcztPWIcPWIIcztPWIIcPWOcztPWOcPWOOcztPWOOcPWAcztPWA
cPWAAcztPWAAcY-CREE PWAAcPcztPcCARRIER HcTEcTAAIcTIcTIIcTOcTOOcY-CREE TOOcCARRIER DEEdDIcTAcTAAcTWE
cztTWEcTWIcztTWIcTWIIcztTWIIczccztzccTWOOcztTWOOcTWAcztTWAcTWAAcztTWAAcNASKAPI TWAAcTcTTEcTTIcTTOcyy
cKEcKAAIcKIcKIIcKOcKOOcY-CREE KOOcKAcKAAcKWEcztKWEcKWIcztKWIcKWIIcztKWIIcKWOcztKWOcKWOOcztKWOOcKWA
cztKWAcKWAAcztKWAAcNASKAPI KWAAcKcKWcSOUTH-SLAVEY KEHdKIHdKOHdKAHcCEcCAAIcCIcCIIcCOcCOOcY-CREE COO
cCAcCAAcCWEcztCWEcCWIcztCWIcCWIIcztCWIIcCWOcztCWOcCWOOcztCWOOcCWAcztCWAcCWAAcztCWAAcNASKAPI CWAAcC
cSAYISI THcMEcMAAIcMIcMIIcMOcMOOcY-CREE MOOcMAcMAAcMWEcztMWEcMWIcztMWIcMWIIcztMWIIcMWOcztMWOcMWOO
cztMWOOcMWAcztMWAcMWAAcztMWAAcNASKAPI MWAAcMcztMcMHcATHAPASCAN McSAYISI McNEcNAAIcNIcNIIcNOcNOO
cY-CREE NOOcNAcNAAcNWEcztNWEcNWAcztNWAcNWAAcztNWAAcNASKAPI NWAAcNcCARRIER NGcNHcLEcLAAIcLIcLIIcLO
cLOOcY-CREE LOOcLAcLAAcLWEcztLWEcLWIcztLWIcLWIIcztLWIIcLWOcztLWOcLWOOcztLWOOcLWAcztLWAcLWAAcztLWAAcL
cztLctpLcSEcSAAIcSIcSIIcSOcSOOcY-CREE SOOcSAcSAAcSWEcztSWEcSWIcztSWIcSWIIcztSWIIcSWOcztSWOcSWOO
cztSWOOcSWAcztSWAcSWAAcztSWAAcNASKAPI SWAAcScATHAPASCAN ScSWcBLACKFOOT ScMOOSE-CREE SKcNASKAPI SKW
dS-WdSPWAdSTWAdSKWAdSCWAcSHEcSHIcSHIIcSHOcSHOOcwrcSHAAcSHWEcztSHWEcSHWIcztSHWIcSHWIIcztSHWIIcSHWO
cztSHWOcSHWOOcztSHWOOcSHWAcztSHWAcSHWAAcztSHWAAcSHcYEcYAAIcYIcYIIcYOcYOOcY-CREE YOOcYAcYAAcYWEcztYWE
cYWIcztYWIcYWIIcztYWIIcYWOcztYWOcYWOOcztYWOOcYWAcztYWAcYWAAcztYWAAcNASKAPI YWAAcYcBIBLE-CREE YcztY
cSAYISI YIcREcR-CREE REcztLEcRAAIcRIcRIIcROcROOcztLOcRAcRAAcztLAcRWAAcztRWAAcRcztRctpRcFEcFAAIcFI
cFIIcFOcFOOcFAcFAAcFWAAcztFWAAcFcyhcN-CREEyhcTHIcN-CREE THIcTHIIcN-CREE THIIcTHOcTHOOcygcTHAAcTHWAA
cztTHWAAcTHcTTHEcTTHIcTTHOcyzcTTHcTYEcTYIcTYOcTYAcNUNAVIK HEdHIdHIIdHOdHOOdHAdHAAdHcNUNAVUT HcHK
cQAAIcQIcQIIcQOcQOOcQAcQAAcQcTLHEcTLHIcTLHOcTLHAcztREdRIdROdRAcNGAAIcNGIcNGIIcNGOcNGOOcuecNGAAcNG
cNNGcSAYISI SHEdSHIdSHOdwrcWOODS-CREEyhdTHIdTHOdygdTHcLHIcLHIIcLHOcLHOOcLHAcLHAAcLHcTH-CREEyhdTHI
dTHIIdTHOdTHOOdygdTHAAdTHcAIVILIK BcBLACKFOOT EdIdOdAdWEdWIdWOdWAdNEdNIdNOdNAdKEdKIdKOdKAcSAYISI HE
dHIdHOdHAcCARRIER GHUdGHOdGHEdGHEEdGHIdqtdRUdROdREdREEdRIdRAdWUdWOdWEdWEEdWIdWAdHWUdHWOdHWEdHWEEdHWI
dHWAdTHUdTHOdyhdTHEEdTHIdygdTTUdTTOdTTEdTTEEdTTIdyydPUdPOdPEdPEEdPIdPAdPdGUdGOdGEdGEEdGIdGAdKHUdKHO
dKHEdKHEEdKHIdsmdKKUdKKOdKKEdKKEEdKKIdKKAdKKdNUdNOdNEdNEEdNIdNAdMUdMOdMEdMEEdMIdMAdYUdYOdYEdYEEdYI
dYAdJUcSAYISI JUcCARRIER JOdJEdJEEdJIcSAYISI JIcCARRIER JAdJJUdJJOdJJEdJJEEdJJIdJJAdLUdLOdLEdLEEdLI
dLAdDLUdDLOdDLEdDLEEdDLIdDLAdLHUdLHOdLHEdLHEEdLHIdLHAdTLHUdTLHOdTLHEdTLHEEdTLHIdTLHAdTLUdTLOdTLE
dTLEEdTLIdTLAdZUdZOdZEdZEEdZIdZAdZdryZdDZUdDZOdDZEdDZEEdDZIdDZAdSUdSOdSEdSEEdSIdSAdSHUdSHOdSHEdSHEE
dSHIdwrdSHdTSUdTSOdTSEdTSEEdTSIdTSAdCHUdCHOdCHEdCHEEdCHIdntdTTSUdTTSOdTTSEdTTSEEdTTSIdTTSAcCHIxa
cqqxqcQAIcNGAIcNNGIcNNGIIcNNGOcNNGOOcNNGAcNNGAAcWOODS-CREE THWEEdTHWIdTHWIIdTHWOdTHWOOdTHWAdTHWAA
dqgTHcBLACKFOOT WaOGHAMxktnbtaBEITHcLUIScFEARNcSAILcNIONcUATHcDAIRcTINNEcCOLLcCEIRTcMUINcGORT
cNGEADALcSTRAIFcRUIScAILMcONNcURcEADHADHcIODHADHcEABHADHcORcUILLEANNcIFINcEAMHANCHOLLcPEITH
bFEATHERtnbwaFEATHERtn"),
  (0x16A0, "aRUNICtaFEHU FEOH FE FcVcURUZ UR UcYRcYcWcTHURISAZ THURS THORNcETHcANSUZ AcOS OcAC A
cAESCcLONG-BRANCH-OSS OcSHORT-TWIG-OSS OcOcOEcONcRAIDO RAD REID RcKAUNAcCENcKAUN KcGcENGcGEBO GYFU G
cGARcWUNJO WYNN WcHAGLAZ HcHAEGL HcLONG-BRANCH-HAGALL HcSHORT-TWIG-HAGALL HcNAUDIZ NYD NAUD N
cSHORT-TWIG-NAUD NcDOTTED-NcISAZ IS ISS IcEcJERAN JcGERcLONG-BRANCH-AR AEcSHORT-TWIG-AR AcIWAZ EOH
cPERTHO PEORTH PcALGIZ EOLHXcSOWILO ScSIGEL LONG-BRANCH-SOL ScSHORT-TWIG-SOL ScCcZcTIWAZ TIR TYR T
cSHORT-TWIG-TYR TcDcBERKANAN BEORC BJARKAN BcSHORT-TWIG-BJARKAN BcDOTTED-PcOPEN-PcEHWAZ EH E
cMANNAZ MAN McLONG-BRANCH-MADR McSHORT-TWIG-MADR McLAUKAZ LAGU LOGR LcDOTTED-LcINGWAZcING
cDAGAZ DAEG DcOTHALAN ETHEL OcEARcIORcCWEORTHcCALCcCEALCcSTANcLONG-BRANCH-YRcSHORT-TWIG-YR
cICELANDIC-YRcQcXbxcvqbtzvqbojvqbARLAUGxybTVIMADURxybBELGTHORxybtaKcSHcOOcFRANKS CASKET OSeISeEHeAC
eAESC"),
  (0x1700, "aTAGALOGtaAcIcUcKAcGAcuecTAcDAcNAcPAcBAcMAcYAcRAcLAcWAcSAcHAbzqxaIdUbxazncPAMUDPOD"),
  (0x171F, "aTAGALOGtamrRAaHANUNOOtaAcIcUcKAcGAcuecTAcDAcNAcPAcBAcMAcYAcRAcLAcWAcSAcHAbzqxaIdU
bxaPAMUDPODaPHILIPPINExcvqbpnvq"),
  (0x1740, "aBUHIDtaAcIcUcKAcGAcuecTAcDAcNAcPAcBAcMAcYAcRAcLAcWAcSAcHAbzqxaIdU"),
  (0x1760, "aTAGBANWAtaAcIcUcKAcGAcuecTAcDAcNAcPAcBAcMAcYA"),
  (0x176E, "aTAGBANWAtaLAcWAcSA"),
  (0x1772, "aTAGBANWAzqxaIdU"),
  (0x1780, "aKHMERtaKAcsmcKOcKHOcNGOcCAcntcCOcCHOcNYOcDAcyzcDOcTTHOcNNOcTAcygcTOcTHOcNOcBAcvicPOcPHO
cMOcYOcROcLOcVOcwrcSSOcSAcHAcLAcQAbrwzqQAQdQAAdQIdQIIdQUdQUKdQUUdQUUVdRYdRYYdLYdLYYdQEdQAI
dQOO TYPEuvfzcdQAUbzqINHERENT AQdAAcxaAAdIdIIdYdYYdUdUUdUAdOEdYAdIEdEdAEdAIdOOdAUbxaNIKAHITcREAHMUK
cYUUKALEAPINTUcMUUSIKATOANcTRIISAPcBANTOCcROBATcTOANDAKHIATcKAKABATcAHSDAcSAMYOK SANNYAcVIRIAMcCOENG
cBATHAMASATcKHANcBARIYOOSANcCAMNUC PII KUUHcLEK TOOcBEYYALcPHNAEK MUANcKOOMUUTbCURRENCYxyRIEL
bxaAVAKRAHASANYAcATTHACAN"),
  (0x17E0, "aKHMERpgzzcuvczccylcqncqicxecwpcptcuf"),
  (0x17F0, "aKHMERxyLEK ATTAK SONeMUOYePIIeBEIeBUONePRAMePRAM-MUOYePRAM-PIIePRAM-BEIePRAM-BUON"),
  (0x1800, "aMONGOLIAN BIRGAbELLIPSISboebqqxqbocbqnplbTODO SOFT HYPHENbSIBExxBOUNDARY MARKER
bMANCHUoecqqxqbNIRUGUbFREE VARIATION SELECTORuvezceylbzqwobFREE VARIATION SELECTORqnbpgzzcuvczccyl
cqncqicxecwpcptcuf"),
  (0x1820, "aMONGOLIANtaAcEcIcOcUcOEcUEcEEcNAcANGcBAcPAcQAcGAcMAcLAcSAcwrcTAcDAcntcJAcYAcRAcWAcFAcKA
csmcTSAcZAcHAAcZRAcLHAcZHIcCHIcTODOtgzqxadEdIdOdUdOEdUEdANGdBAdPAdQAdGAdMAdTAdDAdntdJAdTSAdYAdWAdKA
dGAAdHAAdJIAdNIAdDZAcSIBE EdIdIYdUEdUdANGdKAdGAdHAdPAdwrdTAdDAdJAdFAdGAAdHAAdTSAdZAdRAAdntdZHA
cMANCHU IdKAdRAdFAdZHAcntzvzcpl"),
  (0x1880, "aMONGOLIANtaALI GALImnuvezouveDAMARUeUBADAMAesdUBADAMAeBALUDAeylBALUDAeAeIeKAeueeCAeyy
eyzeoveuheTAeDAePAeviexoeZHAeZAeAHcTODO ALI GALI TAfZHAcMANCHU ALI GALIqtfuefCAfsifyyfowfTAfpafxo
fCYAfZHAfZAcALI GALIrdUfYAcMANCHU ALI GALInfcALI GALI DAGALGAcMANCHU ALI GALI LHA"),
  (0x18B0, "aCANADIAN SYLLABICS OYcAYcAAYcWAYcPOYcPAYcPWOYcTAYcKAYcKWAYcMAYcNOYcNAYcLAYcSOYcSAYcSHOY
cSHAYcSHWOYcYOYcYAYcRAYcNWIcOJIBWAY NWIcNWIIcOJIBWAY NWIIcNWOcOJIBWAY NWOcNWOOcOJIBWAY NWOOcRWEEcRWI
cRWIIcRWOcRWOOcRWAcOJIBWAY PdTdKdCdMdNdSdSHcEASTERN WcWESTERN WcqgxgwedvxpjcR-CREE RWEcztLOOdLAA
cTHWEcTHWAcTTHWEcTTHOOcTTHAAcTLHWEcTLHOOcSAYISI SHWEdSHOOdHOOcCARRIER GWUdDENE GEEdGAAdGWA
cSAYISI JUUcCARRIER JWAcBEAVER DENE LeRcCARRIER DENTAL S"),
  (0x1900, "aLIMBU VOWEL-CARRIERtabtaKAcsmcGAcqtcuecCAcntcJAcsicYANcTAcygcDAcpacNAcPAcvicBAcnfcMAcYA
cRAcLAcWAcwrcxocSAcHAcGYANcTRA"),
  (0x1920, "aLIMBUzqxaAdIdUdEEdAIdOOdAUdEdObSUBJOINEDtaYAdRAdWA"),
  (0x1930, "aLIMBUxgtaKAduedmndTAdNAdPAdMAdRAdLAbxaMUKPHRENGcKEMPHRENGcSA-I"),
  (0x1940, "aLIMBUxaLOO"),
  (0x1944, "aLIMBUqdtnbvvtnbpgzzcuvczccylcqncqicxecwpcptcufaTAI LEtaKAdXAduedTSAdSAdYAdTAdygdLAdPA
dvidMAdFAdVAdHAdQAdsmdTSHAdNAdAdIdEEdEHdUdOOdOdUEdEdAUEdAI"),
  (0x1970, "aTAI LEtaTONE-2dTONE-3dTONE-4dTONE-5dTONE-6"),
  (0x1980, "aNEW TAI LUEtaroQAethQAeroKAfXAfueethKAfXAfueeroTSAfSAfYAethTSAfSAfYAeroTAfygfNAethTAfyg
fNAeroPAfvifMAethPAfvifMAeroFAfVAfLAethFAfVAfLAeroHAfDAfBAethHAfDAfBAeroKVAfXVAethKVAfXVAeroSUA
ethSUA"),
  (0x19B0, "aNEW TAI LUEzqxazqSHORTENERfAAfIIfUfUUfEfAEfOfOAfUEfAYfAAYfUYfOYfOAYfUEYfIYdtaqgVfNGfNfM
fKfDfBdyqMARK-1eMARK-2"),
  (0x19D0, "aNEW TAI LUEpgzzeuvezceyleqneqiexeewpepteufdTHAMpguv"),
  (0x19DE, "aNEW TAI LUExaLAEeLAEVaKHMERxyPATHAMASATcMUOY KOETcPII KOETcBEI KOETcBUON KOETcPRAM KOET
cPRAM-MUOY KOETcPRAM-PII KOETcPRAM-BEI KOETcPRAM-BUON KOETcDAP KOETcDAP-MUOY KOETcDAP-PII KOET
cDAP-BEI KOETcDAP-BUON KOETcDAP-PRAM KOETcTUTEYASATcMUOY ROCcPII ROCcBEI ROCcBUON ROCcPRAM ROC
cPRAM-MUOY ROCcPRAM-PII ROCcPRAM-BEI ROCcPRAM-BUON ROCcDAP ROCcDAP-MUOY ROCcDAP-PII ROCcDAP-BEI ROC
cDAP-BUON ROCcDAP-PRAM ROCaBUGINESEtaKAcGAcuecNGKAcPAcBAcMAcMPAcTAcDAcNAcNRAcCAcJAcupcNYCAcYAcRAcLA
cVAcSAcAcHAbzqxaIdUdEdOdAE"),
  (0x1A1E, "aBUGINESE PALLAWAbEND OFwlaTAI THAMtaroKAesmeKXAdthKAeKXAesmduedroCAentdthCAeSAentdup
dRATAdroRATHAdDAdthRATHAdRANAdroTAeygdthTAeygdNAdBAdroPAevieFAdthPAeFAevidMAdthYAdroYAdRAdRUEdLAdLUE
dWAdrowrexoeSAeHAdLLAdAdthHAdIdIIdUdUUdEEdOOdLAEdGREAT SAcogxatpRAfLAeLA TANG LAIcxaMAI KANG LAI
cogxaqgueethPAeroRATHA ORthPAeMAeBAeSA"),
  (0x1A60, "aTAI THAMxaSAKOTczqxaAeMAI SATeAAeTALL AAeIeIIeUEeUUEeUeUUeOeOAnbeOYeEeAEeOOeAIeTHAM AI
eOAmbcxaMAI KANGdTONE-1dTONE-2dKHUEN TONE-3eTONE-4eTONE-5dRA HAAMdMAI SAMdKHUEN-LUE KARAN"),
  (0x1A7F, "aTAI THAModonpjcHORApgzzeuvezceyleqneqiexeewpepteuf"),
  (0x1A90, "aTAI THAM THAMpgzzeuvezceyleqneqiexeewpepteuf"),
  (0x1AA0, "aTAI THAMxaWIANGdWIANGWAAKdSAWANdKEOWdHOYdDOKMAIdwawfRANAdMAI YAMOKdKAANdKAANKUUdSATKAAN
dSATKAANKUUdHANGdCAANG"),
  (0x1AB0, "aodDOUBLEDnzmcbDIAERESIS-RINGbINFINITYbprmtbyxpjbX-XnbbWIGGLYtdnbbuwtnnbbpnuwtnnb
btcCENTRALIZATIONxsnbbSTRONG CENTRALIZATIONxsnbbPARENTHESESmbbpnPARENTHESESmbbPARENTHESESnbcvc
bstxgtaWnbezaWnbbsuvfmbsubwbvfmbwbbsuvfnbsubwbvfnbwbbxmBRACKETSmbbunxambbsdpnARCHmbbvjxambbpnvjxamb
enbbyxmdmcbstxgtasaGfRfT"),
  (0x1B00, "aBALINESExaULU RICEMdnncCECEKcSURANGcBISAHbtaAKARAdTEDUNGcIKARAdTEDUNGcUKARAdTEDUNG
cRA REPAeTEDUNGcLA LENGAeTEDUNGcEKARAcAIKARAcOKARAdTEDUNGcKAdMAHAPRANAcGAdGORAcuecCAdLACAcJAdJERAcup
cTA LATIKdMURDA MAHAPRANAcDA MURDA ALPAPRANAeMAHAPRANAcNA RAMBATcTAdTAWAcDAdMADUcNAcPAdKAPALcBA
dKEMBANGcMAcYAcRAcLAcWAcSA SAGAdSAPAcSAcHAbxaREREKANbzqxaTEDUNGdULUeSARIdSUKUeILUTdRA REPAfTEDUNG
dLA LENGAfTEDUNGdTALINGeREPAeTEDUNGeREPA TEDUNGdPEPETeTEDUNGbADEG ADEGbtaKAF SASAKcKHOT SASAK
cTZIR SASAKcEF SASAKcVE SASAKcZAL SASAKcASYURA SASAKcmrJNYA"),
  (0x1B50, "aBALINESEpgzzcuvczccylcqncqicxecwpcptcufbPANTIbPAMADAbWINDUbCARIK PAMUNGKAHcSIKIcPAREREN
bPAMENENGbubxyDONGdDENGdDUNGdDANGeSURANGdDINGdDAENGdDEUNGdDAINGdDANG GEDEdodTEGEHeENDEPeKEMPUL
eKEMPLIeJEGOGANeKEMPULzvJEGOGANeKEMPLIzvJEGOGANeBENDEeGONGdRIGHT-HANDuwDUGfDAGeobTUKfTAK
dLEFT-HANDuwPANGfPUNGeobPLAKfPLUKeuwPINGbPANTI LANTANGbPAMADA LANTANG"),
  (0x1B80, "aSUNDANESExaPANYECEKcPANGLAYARcPANGWISADbtaAcIcUcAEcOcEcEUcKAcQAcGAcuecCAcJAcZAcupcTAcDA
cNAcPAcFAcVAcBAcMAcYAcRAcLAcWAcSAcXAcHAbogxaPAMINGKALdPANYAKRAdPANYIKUbzqxaPANGHULUdPANYUKU
dPANAELAENGdPANOLONGdPAMEPETdPANEULEUNGbxaPAMAAEHcznbogxaPASANGAN MAeWAbtasmcSYAbpgzzcuvczccylcqncqi
cxecwpcptcufbmybtaREUcLEUcnfcqgKdMaBATAKtaAcxbAcHAcxbHAcMANDAILING HAcBAcKARO BAcPAcxbPAcNA
cMANDAILING NAcWAcxbWAcPAKPAK WAcGAcxbGAcJAcDAcRAcxbRAcMAcxbMAcSOUTHERN TAcNORTHERN TAcSAcxbSA
cMANDAILING SAcYAcxbYAcuecLAcxbLAcupcCAcNDAcMBAcIcUbxaTOMPIbzqxaEdPAKPAK EdEEdIdKARO IdOdKARO OdU
eqjxbSAbogxaNGdHbPANGOLATbPANONGONAN"),
  (0x1BFC, "aBATAKxyBINDU NA METEKdPINARBORASdJUDULdPANGOLATaLEPCHAtaKAcKLAcsmcGAcGLAcuecCAcntcJAcup
cTAcygcDAcNAcPAcPLAcvicFAcFLAcBAcBLAcMAcMLAcTSAcTSHAcDZAcYAcRAcLAcHAcHLAcVAcSAcwrcWAcAbSUBJOINEDtaYA
dRAbzqxaAAdIdOdOOdUdUUdEbogxaKdMdLdNdPdRdTdNYIN-DOdKANGbxaRANcum"),
  (0x1C3B, "aLEPCHAvqTA-ROLcNYET THYOOM TA-ROLcCER-WAcTSHOOK CER-WAcTSHOOKbpgzzcuvczccylcqncqicxecwp
cptcuf"),
  (0x1C4D, "aLEPCHAtayycyzcovaOL CHIKIpgzzduvdzcdyldqndqidxedwpdptdufctaLAdATdAGdANGdALdLAAdAAKdAAJ
dAAMdAAWdLIdISdIHdINYdIRdLUdUCdUDdUNNdUYdLEdEPdEDDdENdERRdLOdOTTdOBdOVdOHcMU TTUDDAG
cGAAHLAA TTUDDAAGcMU-GAAHLAA TTUDDAAGcRELAAcPHAARKAAcAHADcvqMUCAADdpnMUCAADaoqxgtaROUNDED VE
dLONG-LEGGED DEdNARROW OdWIDE ESdTALL TEdTHREE-LEGGED TEdTALL HARDxaeYATdUNBLENDED UK"),
  (0x1C90, "aqsMTAVRULInptaANeBANeGANeDONeENeVINeZENeTANeINeKANeLASeMANeNAReONePAReZHAReRAEeSANeTAR
eUNePHAReKHAReGHANeQARewweCHINeCANeJILeCILeCHAReXANeJHANeHAEeHEeHIEeWEeHAReHOEeFIeYNeELIFIezaGAN
eAIN"),
  (0x1CBD, "aqsMTAVRULInptaAENeHARDxaeLABIALxaaSUNDANESEvqBINDU SURYAdPANGLONGdPURNAMAdCAKRA
dLEU SATANGAdKA SATANGAdDA SATANGAdBA SATANGA"),
  (0x1CD0, "aVEDICyqKARSHANAcSHARAcPRENKHAbxaNIHSHVASAcYAJURVEDIC MIDLINE SVARITA
byqYAJURVEDIC AGGRAVATEDrwSVARITAdrwSVARITAdKATHAKArwSVARITAcnnnb
cYAJURVEDIC KATHAKArwSVARITA SCHROEDERcpnSVARITAcyxSVARITAcKATHAKA ANUDATTAcpjnbczcplnbcylplnb
cRIGVEDIC KASHMIRIrwSVARITAcATHARVAVEDICrwSVARITAbxazoSVARITAdUDATTAcwazoUDATTAczoANUDATTA
cwazoANUDATTAczoUDATTAzvyadANUDATTAzvyacmnANTARGOMUKHAdBAHIRGOMUKHAdVAMAGOMUKHAezvyacTIRYAK
cHEXIFORMtgmnctgmncRTHANGtgmncmnUBHAYATO MUKHAcARDHAVISARGAcwfARDHAVISARGAbyqnnmbbxaJIHVAMULIYA
cUPADHMANIYAcATIKRAMAbyqwembcpnwembbxapnmnANTARGOMUKHA"),
  (0x1D00, "asttaxgnpAeAEbxgtazaAEbtaxgnpBARRED BeCeDeETHeEbxgtazauwEeIbtaxgnpJeKeLzvxseMewaNeOeuwO
bxgtaSIDEWAYS OeuwOeOzvxsdzaOEbtaxgnpOUbxgtaysrdOdnjrdObtaxgnpPewaRezaReTeUbxgtaSIDEWAYS U
eDIAERESIZED UezaMbtaxgnpVeWeZeEZHcVOICED LARYNGEAL SPIRANTcAINaqytaxgnpqreLAMDAePIeRHOePSI
aoqtaxgnpELatutanpAdAEdBdBARRED BdDdEdwaEdGdHdIdJdKdLdMdNdwaNdOdOUdPdRdTdUdWcxgAdzaAdmhdzaAEdBdDdE
dSCHWAduwEdzauwEdGdzaIdKdMdENGdOduwOdysrdOdnjrdOdPdTdUdSIDEWAYS UdzaMdVdAINdBETAdqyqrdoydqyPHIdCHI
astSUBSCRIPTxgtaIeReUeVaqySUBSCRIPTxgtaBETAeqreRHOePHIeCHIastxgtaUEdBzvtsyodDzvtsyodFzvtsyodMzvtsyo
dNzvtsyodPzvtsyodRzvtsyofFISHHOOKmktsyodSzvtsyodTzvtsyodZzvtsyodzaGatutaoqENastxgtasaG
dTHzvSTRIKETHROUGHcnptaIzvxsctasezvxsdPzvxscnptaUzvxsctazhzvxsdBzvverrdDzvverrdFzvverrdGzvverr
dKzvverrdLzvverrdMzvverrdNzvverrdPzvverrdRzvverrdSzvverrdESHzvverrdVzvverrdXzvverrdZzvverrdAzvvyrr
dmhzvvyrrdDzvrrmkyadEzvvyrrduwEzvvyrrdwauwEzvvyrrdSCHWAzvvyrrdIzvvyrrduwOzvvyrrdESHzvvyrrdUzvvyrr
dEZHzvvyrratutaxgzamhdCezvCURLdETHdwauwEdFdpkJzvxsdwkGdzaHdIzvxsdsednpIfzvxsdJzvoldLzvvyrrfverrdnpL
dMzvrrdzaMzvtgLEGdNzvsurrfvyrrdnpNdBARRED OdPHIdSzvrrdESHdTzvverrdUmzdzhdnpUdVzvrrdzaVdZezvvyrrfCURL
dEZHdyiaodpmqwmccmdmcbSNAKEnbbSUSPENSIONtnbMACRON-ACUTEbGRAVE-MACRONbMACRON-GRAVEbACUTE-MACRON
bGRAVE-ACUTE-GRAVEbACUTE-GRAVE-ACUTEbstxgtaRnbbBREVE-MACRONbMACRON-BREVEbpnnzmbburmbbZIGZAGnbbISnb
bURmbbUSmbbstxgtaFLATTENEDuwAmbeAEeAOeAVeCnresaDeETHeGctaxgnpGcxgtaKeLctaxgnpLfMcxgtaNctaxgnpNfR
cxgtaR ROTUNDAeSetgSeZemheBeBETAeSCHWAeFeLzvpntsyoeOzvtcCENTRALIZATIONxsePeESHeUzvtcCENTRALIZATIONxs
eWeAzvpbeOzvpbeUzvpbbUPxzmbbKAVYKAmbwbdsubpjmbsubWIDEsdBRIDGEnbbpjnbsubDELETIONtnbpnsdnlnbbmfpyTOnb
bsumumbbwbmumkppmunbastnptaAzvwenbbxgtaAzvwenbbnptaBzvpjmbbxgtaBzvpjmbbnptaBzvpjnbbxgtaBzvpjnb
bnptaBzvtdnbbxgtaBzvtdnbbnptaCzvnrmkmdbxgtaCzvnrmkmdbnptaDzvpjmbbxgtaDzvpjmbbnptaDzvpjnbbxgtaDzvpjnb
bnptaDzvtdnbbxgtaDzvtdnbbnptaDzvnrbxgtaDzvnrbnptaDzvnznbbxgtaDzvnznbbnptaEzvtkmkqwbxgtaEzvtkmkqw
bnptaEzvtkmkmdbxgtaEzvtkmkmdbnptaEzvnznbbxgtaEzvnznbbnptaEzvyonbbxgtaEzvyonbbnptaEzvnrmknl
bxgtaEzvnrmknlbnptaFzvpjmbbxgtaFzvpjmbbnptaGzvtkbxgtaGzvtkbnptaHzvpjmbbxgtaHzvpjmbbnptaHzvpjnb
bxgtaHzvpjnbbnptaHzvpbbxgtaHzvpbbnptaHzvnrbxgtaHzvnrbnptaHzvnlnbbxgtaHzvnlnbbnptaIzvyonbbxgtaIzvyonb
bnptaIzvpbmkmdbxgtaIzvpbmkmdbnptaKzvmdbxgtaKzvmdbnptaKzvpjnbbxgtaKzvpjnbbnptaKzvtdnbbxgtaKzvtdnb
bnptaLzvpjnbbxgtaLzvpjnbbnptaLzvpjnbmktkbxgtaLzvpjnbmktkbnptaLzvtdnbbxgtaLzvtdnbbnptaLzvnznb
bxgtaLzvnznbbnptaMzvmdbxgtaMzvmdbnptaMzvpjmbbxgtaMzvpjmbbnptaMzvpjnbbxgtaMzvpjnbbnptaNzvpjmb
bxgtaNzvpjmbbnptaNzvpjnbbxgtaNzvpjnbbnptaNzvtdnbbxgtaNzvtdnbbnptaNzvnznbbxgtaNzvnznbbnptaOzvyomkmd
bxgtaOzvyomkmdbnptaOzvyomkpbbxgtaOzvyomkpbbnptaOzvtkmkqwbxgtaOzvtkmkqwbnptaOzvtkmkmdbxgtaOzvtkmkmd
bnptaPzvmdbxgtaPzvmdbnptaPzvpjmbbxgtaPzvpjmbbnptaRzvpjmbbxgtaRzvpjmbbnptaRzvpjnbbxgtaRzvpjnb
bnptaRzvpjnbmktkbxgtaRzvpjnbmktkbnptaRzvtdnbbxgtaRzvtdnbbnptaSzvpjmbbxgtaSzvpjmbbnptaSzvpjnb
bxgtaSzvpjnbbnptaSzvmdmkpjmbbxgtaSzvmdmkpjmbbnptaSzvnqmkpjmbbxgtaSzvnqmkpjmbbnptaSzvpjnbmkpjmb
bxgtaSzvpjnbmkpjmbbnptaTzvpjmbbxgtaTzvpjmbbnptaTzvpjnbbxgtaTzvpjnbbnptaTzvtdnbbxgtaTzvtdnb
bnptaTzvnznbbxgtaTzvnznbbnptaUzvpbnbbxgtaUzvpbnbbnptaUzvyonbbxgtaUzvyonbbnptaUzvnznbbxgtaUzvnznb
bnptaUzvyomkmdbxgtaUzvyomkmdbnptaUzvtkmkpbbxgtaUzvtkmkpbbnptaVzvyobxgtaVzvyobnptaVzvpjnbbxgtaVzvpjnb
bnptaWzvqwbxgtaWzvqwbnptaWzvmdbxgtaWzvmdbnptaWzvpbbxgtaWzvpbbnptaWzvpjmbbxgtaWzvpjmbbnptaWzvpjnb
bxgtaWzvpjnbbnptaXzvpjmbbxgtaXzvpjmbbnptaXzvpbbxgtaXzvpbbnptaYzvpjmbbxgtaYzvpjmbbnptaZzvnzbxgtaZzvnz
bnptaZzvpjnbbxgtaZzvpjnbbnptaZzvtdnbbxgtaZzvtdnbdHzvtdnbdTzvpbdWzvwembdYzvwembdAzvwbrdwedtgSzvpjmb
gpcxsgroxsbnptaSHARP SbxgtaoybnptaAzvpjnbbxgtaAzvpjnbbnptaAzvrrmbbxgtaAzvrrmbbnptaAzvnzmkmd
bxgtaAzvnzmkmdbnptaAzvnzmkqwbxgtaAzvnzmkqwbnptaAzvnzmkrrmbbxgtaAzvnzmkrrmbbnptaAzvnzmkyo
bxgtaAzvnzmkyobnptaAzvnzmkpjnbbxgtaAzvnzmkpjnbbnptaAzvnlmkmdbxgtaAzvnlmkmdbnptaAzvnlmkqw
bxgtaAzvnlmkqwbnptaAzvnlmkrrmbbxgtaAzvnlmkrrmbbnptaAzvnlmkyobxgtaAzvnlmkyobnptaAzvnlmkpjnb
bxgtaAzvnlmkpjnbbnptaEzvpjnbbxgtaEzvpjnbbnptaEzvrrmbbxgtaEzvrrmbbnptaEzvyobxgtaEzvyobnptaEzvnzmkmd
bxgtaEzvnzmkmdbnptaEzvnzmkqwbxgtaEzvnzmkqwbnptaEzvnzmkrrmbbxgtaEzvnzmkrrmbbnptaEzvnzmkyo
bxgtaEzvnzmkyobnptaEzvnzmkpjnbbxgtaEzvnzmkpjnbbnptaIzvrrmbbxgtaIzvrrmbbnptaIzvpjnbbxgtaIzvpjnb
bnptaOzvpjnbbxgtaOzvpjnbbnptaOzvrrmbbxgtaOzvrrmbbnptaOzvnzmkmdbxgtaOzvnzmkmdbnptaOzvnzmkqw
bxgtaOzvnzmkqwbnptaOzvnzmkrrmbbxgtaOzvnzmkrrmbbnptaOzvnzmkyobxgtaOzvnzmkyobnptaOzvnzmkpjnb
bxgtaOzvnzmkpjnbbnptaOzvrtmkmdbxgtaOzvrtmkmdbnptaOzvrtmkqwbxgtaOzvrtmkqwbnptaOzvrtmkrrmb
bxgtaOzvrtmkrrmbbnptaOzvrtmkyobxgtaOzvrtmkyobnptaOzvrtmkpjnbbxgtaOzvrtmkpjnbbnptaUzvpjnbbxgtaUzvpjnb
bnptaUzvrrmbbxgtaUzvrrmbbnptaUzvrtmkmdbxgtaUzvrtmkmdbnptaUzvrtmkqwbxgtaUzvrtmkqwbnptaUzvrtmkrrmb
bxgtaUzvrtmkrrmbbnptaUzvrtmkyobxgtaUzvrtmkyobnptaUzvrtmkpjnbbxgtaUzvrtmkpjnbbnptaYzvqwbxgtaYzvqw
bnptaYzvpjnbbxgtaYzvpjnbbnptaYzvrrmbbxgtaYzvrrmbbnptaYzvyobxgtaYzvyobnptaMIDDLE-WELSH LL
bxgtaMIDDLE-WELSH LLbnptaMIDDLE-WELSH VbxgtaMIDDLE-WELSH VbnptaYzvLOOPbxgtaYzvLOOPaqyxgtamhzvvpfou
fvpmkzjfoumkzjfvpmkvdfoumkvdfvpmkvgfoumkvgbnptamhzvvpfoufvpmkzjfoumkzjfvpmkvdfoumkvdfvpmkvgfoumkvg
bxgtapxzvvpfoufvpmkzjfoumkzjfvpmkvdfoumkvd"),
  (0x1F18, "aqynptapxzvvpfoufvpmkzjfoumkzjfvpmkvdfoumkvd"),
  (0x1F20, "aqyxgtaETAzvvpfoufvpmkzjfoumkzjfvpmkvdfoumkvdfvpmkvgfoumkvgbnptaETAzvvpfoufvpmkzjfoumkzj
fvpmkvdfoumkvdfvpmkvgfoumkvgbxgtasezvvpfoufvpmkzjfoumkzjfvpmkvdfoumkvdfvpmkvgfoumkvgbnptasezvvpfou
fvpmkzjfoumkzjfvpmkvdfoumkvdfvpmkvgfoumkvgbxgtauuzvvpfoufvpmkzjfoumkzjfvpmkvdfoumkvd"),
  (0x1F48, "aqynptauuzvvpfoufvpmkzjfoumkzjfvpmkvdfoumkvd"),
  (0x1F50, "aqyxgtazhzvvpfoufvpmkzjfoumkzjfvpmkvdfoumkvdfvpmkvgfoumkvg"),
  (0x1F59, "aqynptazhzvou"),
  (0x1F5B, "aqynptazhzvoumkzj"),
  (0x1F5D, "aqynptazhzvoumkvd"),
  (0x1F5F, "aqynptazhzvoumkvgbxgtautzvvpfoufvpmkzjfoumkzjfvpmkvdfoumkvdfvpmkvgfoumkvgbnptautzvvpfou
fvpmkzjfoumkzjfvpmkvdfoumkvdfvpmkvgfoumkvgbxgtamhzvzjfvddpxzvzjfvddETAzvzjfvddsezvzjfvdduuzvzjfvd
dzhzvzjfvddutzvzjfvd"),
  (0x1F80, "aqyxgtamhzvvpmkzyfoumkzyfvpmkzjmkzyfoumkzjmkzyfvpmkvdmkzyfoumkvdmkzyfvpmkvgmkzy
foumkvgmkzybnptamhzvvpmkvofoumkvofvpmkzjmkvofoumkzjmkvofvpmkvdmkvofoumkvdmkvofvpmkvgmkvofoumkvgmkvo
bxgtaETAzvvpmkzyfoumkzyfvpmkzjmkzyfoumkzjmkzyfvpmkvdmkzyfoumkvdmkzyfvpmkvgmkzyfoumkvgmkzy
bnptaETAzvvpmkvofoumkvofvpmkzjmkvofoumkzjmkvofvpmkvdmkvofoumkvdmkvofvpmkvgmkvofoumkvgmkvo
bxgtautzvvpmkzyfoumkzyfvpmkzjmkzyfoumkzjmkzyfvpmkvdmkzyfoumkvdmkzyfvpmkvgmkzyfoumkvgmkzy
bnptautzvvpmkvofoumkvofvpmkzjmkvofoumkzjmkvofvpmkvdmkvofoumkvdmkvofvpmkvgmkvofoumkvgmkvo
bxgtamhzvVRACHYftkfzjmkzyfzyfvdmkzy"),
  (0x1FB6, "aqyxgtamhzvvggmkzybnptamhzvVRACHYftkfzjfvdfvobKORONISbvobvpbvgbpdmkvgbxgtaETAzvzjmkzyfzy
fvdmkzy"),
  (0x1FC6, "aqyxgtaETAzvvggmkzybnptapxzvzjfvddETAzvzjfvdfvobvpmkzjdvddvgbxgtasezvVRACHYftkfpdmkzj
hvd"),
  (0x1FD6, "aqyxgtasezvvgfpdmkvgbnptasezvVRACHYftkfzjfvd"),
  (0x1FDD, "aqyoumkzjdvddvgbxgtazhzvVRACHYftkfpdmkzjhvddRHOzvvpfoudzhzvvgfpdmkvgbnptazhzvVRACHYftk
fzjfvddRHOzvoubpdmkzjdvdbzj"),
  (0x1FF2, "aqyxgtautzvzjmkzyfzyfvdmkzy"),
  (0x1FF6, "aqyxgtautzvvggmkzybnptauuzvzjfvddutzvzjfvdfvobvdbou")]

end EstreeEmitter.Text
